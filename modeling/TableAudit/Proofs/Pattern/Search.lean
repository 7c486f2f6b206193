import Mathlib.Data.List.Basic
import TableAudit.Pattern.Search

/-! The search for a pattern finds it exactly where it occurs if the bounds of its repetitions are
in order. -/
namespace TableAudit.Pattern

def Marked (marks : List Bool) (i : Nat) : Prop := marks[i]? = some true

section Marks

variable {a b marks : List Bool} {i n : Nat}

private theorem Marked.lt_length (h : Marked marks i) : i < marks.length :=
  (List.getElem?_eq_some_iff.mp h).1

private theorem any_id_iff : marks.any id = true ↔ ∃ i, Marked marks i := by
  simp only [List.any_eq_true, id_eq, exists_eq_right, Marked, List.mem_iff_getElem?]

private theorem length_union (h : a.length = n) (h' : b.length = n) : (union a b).length = n := by
  rw [union, List.length_zipWith, h, h', Nat.min_self]

private theorem length_minus (h : a.length = n) (h' : b.length = n) : (minus a b).length = n := by
  rw [minus, List.length_zipWith, h, h', Nat.min_self]

private theorem marked_union (h : a.length = n) (h' : b.length = n) :
    Marked (union a b) i ↔ Marked a i ∨ Marked b i := by
  simp only [Marked, union, List.getElem?_zipWith]
  rcases Nat.lt_or_ge i n with hi | hi
  · rw [List.getElem?_eq_getElem (h ▸ hi), List.getElem?_eq_getElem (h' ▸ hi)]
    simp
  · rw [List.getElem?_eq_none (h ▸ hi), List.getElem?_eq_none (h' ▸ hi)]
    simp

private theorem marked_minus (h : a.length = n) (h' : b.length = n) :
    Marked (minus a b) i ↔ Marked a i ∧ ¬ Marked b i := by
  simp only [Marked, minus, List.getElem?_zipWith]
  rcases Nat.lt_or_ge i n with hi | hi
  · rw [List.getElem?_eq_getElem (h ▸ hi), List.getElem?_eq_getElem (h' ▸ hi)]
    simp
  · rw [List.getElem?_eq_none (h ▸ hi), List.getElem?_eq_none (h' ▸ hi)]
    simp

end Marks

def Steps (R : Nat → Nat → Prop) : Nat → Nat → Nat → Prop
  | 0, i, j => i = j
  | k + 1, i, j => ∃ m, R i m ∧ Steps R k m j

section Steps

variable {R : Nat → Nat → Prop} {i j k l : Nat}

private theorem steps_add : Steps R (k + l) i j ↔ ∃ m, Steps R k i m ∧ Steps R l m j := by
  induction k generalizing i with
  | zero => simp [Steps]
  | succ k ih =>
    rw [Nat.succ_add]
    simp only [Steps, ih]
    constructor
    · rintro ⟨m, him, m', hk, hl⟩
      exact ⟨m', ⟨m, him, hk⟩, hl⟩
    · rintro ⟨m', ⟨m, him, hk⟩, hl⟩
      exact ⟨m, him, m', hk, hl⟩

private theorem Steps.keep {P : Nat → Prop} (hR : ∀ i j, P i → R i j → P j) (h : Steps R k i j)
    (hi : P i) : P j := by
  induction k generalizing i with
  | zero => exact h ▸ hi
  | succ k ih =>
    obtain ⟨m, him, hk⟩ := h
    exact ih hk (hR i m hi him)

private theorem Steps.shorten (hR : ∀ i j, R i j → i ≤ j) (h : Steps R k i j) :
    i ≤ j ∧ ∃ l ≤ j - i, Steps R l i j := by
  induction k generalizing i with
  | zero => exact ⟨Nat.le_of_eq h, 0, Nat.zero_le _, h⟩
  | succ k ih =>
    obtain ⟨m, him, hk⟩ := h
    obtain ⟨hmj, l, hl, hsteps⟩ := ih hk
    -- a step that stays where it is can be left out
    rcases Nat.eq_or_lt_of_le (hR i m him) with rfl | hlt
    · exact ⟨hmj, l, hl, hsteps⟩
    · exact ⟨by omega, l + 1, by omega, m, him, hsteps⟩

end Steps

/-- A step over marks of `n` positions marks the positions to which the relation leads from marked
ones. -/
structure Carries (n : Nat) (step : List Bool → List Bool) (R : Nat → Nat → Prop) : Prop where
  length : ∀ {marks}, marks.length = n → (step marks).length = n
  marked : ∀ {marks}, marks.length = n → ∀ {j}, Marked (step marks) j ↔ ∃ i, Marked marks i ∧ R i j

namespace Carries
variable {n : Nat} {step : List Bool → List Bool} {R : Nat → Nat → Prop} {marks fresh : List Bool}

private theorem iterate (h : Carries n step R) (k : Nat) :
    Carries n (iterate step k) (Steps R k) := by
  induction k with
  | zero => exact ⟨fun hl => hl, fun _ => by simp [Pattern.iterate, Steps]⟩
  | succ k ih =>
    constructor
    · intro marks hl
      rw [Pattern.iterate]
      split
      · exact ih.length (h.length hl)
      · exact hl
    · intro marks hl j
      rw [Pattern.iterate]
      split
      · rw [ih.marked (h.length hl)]
        simp only [h.marked hl, Steps]
        constructor
        · rintro ⟨m, ⟨i, hi, him⟩, hk⟩
          exact ⟨i, hi, m, him, hk⟩
        · rintro ⟨i, hi, m, him, hk⟩
          exact ⟨m, ⟨i, hi, him⟩, hk⟩
      · rename_i hnone
        have hunmarked (i : Nat) : ¬ Marked marks i := fun hi => hnone (any_id_iff.mpr ⟨i, hi⟩)
        simp [hunmarked]

/-- Only the steps from fresh marks have not been made. -/
structure Pending (n : Nat) (R : Nat → Nat → Prop) (fresh marks : List Bool) : Prop where
  length : marks.length = n
  length_fresh : fresh.length = n
  sub : ∀ {i}, Marked fresh i → Marked marks i
  done : ∀ {i j}, Marked marks i → ¬ Marked fresh i → R i j → Marked marks j

private theorem Pending.grown_iff (hp : Pending n R fresh marks) (h : Carries n step R) {i : Nat} :
    Marked (union marks (minus (step fresh) marks)) i ↔
      Marked marks i ∨ ∃ i', Marked fresh i' ∧ R i' i := by
  have hlength := h.length hp.length_fresh
  rw [marked_union hp.length (length_minus hlength hp.length), marked_minus hlength hp.length,
    h.marked hp.length_fresh]
  tauto

private theorem Pending.marked_of_step (hp : Pending n R fresh marks) (h : Carries n step R)
    {i j : Nat}
    (hi : Marked marks i) (hR : R i j) : Marked (union marks (minus (step fresh) marks)) j := by
  rw [hp.grown_iff h]
  by_cases hfresh : Marked fresh i
  · exact .inr ⟨i, hfresh, hR⟩
  · exact .inl (hp.done hi hfresh hR)

private theorem Pending.next (hp : Pending n R fresh marks) (h : Carries n step R) :
    Pending n R (minus (step fresh) marks) (union marks (minus (step fresh) marks)) := by
  have hnext := length_minus (h.length hp.length_fresh) hp.length
  refine ⟨length_union hp.length hnext, hnext, fun hi => ?_, fun hi hnot hR => ?_⟩
  · exact (marked_union hp.length hnext).mpr (.inr hi)
  · exact hp.marked_of_step h (((marked_union hp.length hnext).mp hi).resolve_right hnot) hR

private theorem Pending.spread (hp : Pending n R fresh marks) (h : Carries n step R) (k : Nat) :
    (spread step k fresh marks).length = n ∧
      ∀ j, Marked (spread step k fresh marks) j ↔ ∃ i, Marked marks i ∧ ∃ l ≤ k, Steps R l i j := by
  induction k generalizing fresh marks with
  | zero => exact ⟨hp.length, fun j => by simp [Pattern.spread, Steps]⟩
  | succ k ih =>
    rw [Pattern.spread]
    split
    case isTrue =>
      obtain ⟨hlength, hmarked⟩ := ih (hp.next h)
      refine ⟨hlength, fun j => (hmarked j).trans ⟨?_, ?_⟩⟩
      · rintro ⟨i, hi, l, hlk, hsteps⟩
        rcases (hp.grown_iff h).mp hi with hi | ⟨i', hi', hR⟩
        · exact ⟨i, hi, l, Nat.le_succ_of_le hlk, hsteps⟩
        · exact ⟨i', hp.sub hi', l + 1, Nat.succ_le_succ hlk, i, hR, hsteps⟩
      · rintro ⟨i, hi, l, hlk, hsteps⟩
        cases l with
        | zero => exact ⟨i, (hp.grown_iff h).mpr (.inl hi), 0, Nat.zero_le _, hsteps⟩
        | succ l =>
          obtain ⟨m, hR, hsteps⟩ := hsteps
          exact ⟨m, hp.marked_of_step h hi hR, l, Nat.le_of_succ_le_succ hlk, hsteps⟩
    case isFalse hnone =>
      -- without fresh marks all steps have been made
      have hclosed (i j : Nat) (hi : Marked marks i) (hR : R i j) : Marked marks j :=
        hp.done hi (fun hfresh => hnone (any_id_iff.mpr ⟨i, hfresh⟩)) hR
      refine ⟨hp.length, fun j => ⟨fun hj => ⟨j, hj, 0, Nat.zero_le _, rfl⟩, ?_⟩⟩
      rintro ⟨i, hi, l, -, hsteps⟩
      exact hsteps.keep hclosed hi

private theorem pending_self (hl : marks.length = n) : Pending n R marks marks :=
  ⟨hl, hl, fun hi => hi, fun hi hnot => absurd hi hnot⟩

private theorem spread (h : Carries n step R) (k : Nat) :
    Carries n (fun marks => spread step k marks marks) fun i j => ∃ l ≤ k, Steps R l i j where
  length hl := ((pending_self hl).spread h k).1
  marked hl := ((pending_self hl).spread h k).2 _

private theorem comp {step' : List Bool → List Bool} {R' : Nat → Nat → Prop} (h : Carries n step R)
    (h' : Carries n step' R') :
    Carries n (fun marks => step' (step marks)) fun i j => ∃ m, R i m ∧ R' m j where
  length hl := h'.length (h.length hl)
  marked hl := by
    intro j
    rw [h'.marked (h.length hl)]
    simp only [h.marked hl]
    constructor
    · rintro ⟨m, ⟨i, hi, him⟩, hmj⟩
      exact ⟨i, hi, m, him, hmj⟩
    · rintro ⟨i, hi, m, him, hmj⟩
      exact ⟨m, ⟨i, hi, him⟩, hmj⟩

private theorem congr {R' : Nat → Nat → Prop} (h : Carries n step R)
    (hR : ∀ i j, i < n → (R i j ↔ R' i j)) : Carries n step R' where
  length := h.length
  marked hl := by
    intro j
    rw [h.marked hl]
    refine exists_congr fun i => and_congr_right fun hi => hR i j ?_
    rw [← hl]
    exact hi.lt_length

end Carries

section Matches

variable {t : List Char} {p q : Pattern} {i j : Nat}

/-- A match lies within its text. -/
theorem Matches.bounds (h : Matches t p i j) : i ≤ j ∧ j ≤ t.length := by
  induction h with
  | empty hi | look hi | done hi => exact ⟨Nat.le_refl _, hi⟩
  | chars hc => exact ⟨Nat.le_succ _, (List.getElem?_eq_some_iff.mp hc).1⟩
  | seq _ _ ih ih' => exact ⟨Nat.le_trans ih.1 ih'.1, ih'.2⟩
  | more _ _ _ ih ih' => exact ⟨Nat.le_trans ih.1 ih'.1, ih'.2⟩
  | left _ ih | right _ ih | group _ ih => exact ih

theorem matches_empty_iff : Matches t .empty i j ↔ i ≤ t.length ∧ i = j := by
  constructor
  · intro h
    cases h with
    | empty hi => exact ⟨hi, rfl⟩
  · rintro ⟨hi, rfl⟩
    exact .empty hi

theorem matches_chars_iff {s : CharSet} :
    Matches t (.chars s) i j ↔ ∃ c, t[i]? = some c ∧ s.contains c = true ∧ j = i + 1 := by
  constructor
  · intro h
    cases h with
    | chars hc hs => exact ⟨_, hc, hs, rfl⟩
  · rintro ⟨c, hc, hs, rfl⟩
    exact .chars hc hs

theorem matches_look_iff {l : Look} :
    Matches t (.look l) i j ↔ i ≤ t.length ∧ i = j ∧ l.holds (before? t i) t[i]? = true := by
  constructor
  · intro h
    cases h with
    | look hi hl => exact ⟨hi, rfl, hl⟩
  · rintro ⟨hi, rfl, hl⟩
    exact .look hi hl

theorem matches_seq_iff : Matches t (.seq p q) i j ↔ ∃ m, Matches t p i m ∧ Matches t q m j := by
  constructor
  · intro h
    cases h with
    | seq hp hq => exact ⟨_, hp, hq⟩
  · rintro ⟨m, hp, hq⟩
    exact .seq hp hq

theorem matches_alt_iff : Matches t (.alt p q) i j ↔ Matches t p i j ∨ Matches t q i j := by
  constructor
  · intro h
    cases h with
    | left hp => exact .inl hp
    | right hq => exact .inr hq
  · rintro (hp | hq)
    · exact .left hp
    · exact .right hq

theorem matches_group_iff : Matches t (.group p) i j ↔ Matches t p i j := by
  constructor
  · intro h
    cases h with
    | group hp => exact hp
  · exact .group

/-- A repetition matches as many matches of its content, one behind the other, as its bounds allow. -/
theorem matches_times_iff {least : Nat} {most : Option Nat} :
    Matches t (.times p least most) i j ↔
      i ≤ t.length ∧ ∃ k, least ≤ k ∧ (∀ n ∈ most, k ≤ n) ∧ Steps (Matches t p) k i j := by
  constructor
  · intro h
    generalize hr : Pattern.times p least most = r at h
    induction h generalizing least most with
    | done hi =>
      cases hr
      exact ⟨hi, 0, Nat.le_refl _, fun _ _ => Nat.zero_le _, rfl⟩
    | more hmost hp _ _ ih =>
      cases hr
      obtain ⟨-, k, hk, hkn, hsteps⟩ := ih rfl
      refine ⟨Nat.le_trans hp.bounds.1 hp.bounds.2, k + 1, by omega, fun n hn => ?_, _, hp, hsteps⟩
      have hle := hkn (n - 1) (Option.mem_map_of_mem _ hn)
      have hpos : n ≠ 0 := by
        rintro rfl
        exact hmost hn
      omega
    | _ => cases hr
  · rintro ⟨hi, k, hk, hkn, hsteps⟩
    induction k generalizing least most i with
    | zero =>
      obtain rfl := Nat.le_zero.mp hk
      obtain rfl : i = j := hsteps
      exact .done hi
    | succ k ih =>
      obtain ⟨m, hp, hsteps⟩ := hsteps
      refine .more ?_ hp (ih hp.bounds.2 (by omega) (fun n hn => ?_) hsteps)
      · rintro rfl
        exact absurd (hkn 0 rfl) (Nat.not_succ_le_zero k)
      · obtain ⟨n', hn', rfl⟩ := Option.map_eq_some_iff.mp hn
        have := hkn n' hn'
        omega

end Matches

def isOrdered : Pattern → Bool
  | .seq p q | .alt p q => p.isOrdered && q.isOrdered
  | .times p least most => p.isOrdered && most.all (least ≤ ·)
  | .group p => p.isOrdered
  | .empty | .chars _ | .look _ => true

section Search

variable {t : List Char} {p q : Pattern}

private theorem getElem?_contexts {before : Option Char} {i : Nat} (hi : i ≤ t.length) :
    (contexts before t)[i]? = some (if i = 0 then before else t[i - 1]?, t[i]?) := by
  induction t generalizing before i with
  | nil =>
    obtain rfl : i = 0 := Nat.le_zero.mp hi
    rfl
  | cons c r ih =>
    cases i with
    | zero => rfl
    | succ i =>
      rw [contexts, List.getElem?_cons_succ, ih (Nat.le_of_succ_le_succ hi)]
      cases i <;> simp

private theorem length_contexts (before : Option Char) (t : List Char) :
    (contexts before t).length = t.length + 1 := by
  induction t generalizing before with
  | nil => rfl
  | cons c r ih => simp [contexts, ih]

private theorem carries_chars (t : List Char) (s : CharSet) :
    Carries (t.length + 1) (advance s t) (Matches t (.chars s)) where
  length hl := by simp [advance, hl]
  marked {marks} hl {j} := by
    simp only [matches_chars_iff]
    cases j with
    | zero => simp [Marked, advance]
    | succ j =>
      simp only [Marked, advance, List.getElem?_cons_succ, List.getElem?_zipWith_eq_some,
        Bool.and_eq_true, Nat.add_right_cancel_iff]
      constructor
      · rintro ⟨_, c, hm, hc, rfl, hs⟩
        exact ⟨j, hm, c, hc, hs, rfl⟩
      · rintro ⟨i, hm, c, hc, hs, rfl⟩
        exact ⟨true, c, hm, hc, rfl, hs⟩

private theorem carries_look (t : List Char) (l : Look) :
    Carries (t.length + 1) (fun marks => List.zipWith
      (fun m (c : Option Char × Option Char) => m && l.holds c.1 c.2) marks (contexts none t))
      (Matches t (.look l)) where
  length hl := by rw [List.length_zipWith, hl, length_contexts, Nat.min_self]
  marked {marks} hl {j} := by
    simp only [matches_look_iff, Marked, List.getElem?_zipWith_eq_some, Bool.and_eq_true]
    constructor
    · rintro ⟨_, c, hm, hc, rfl, hs⟩
      have hj : j ≤ t.length := by
        have := Marked.lt_length hm
        omega
      rw [getElem?_contexts hj] at hc
      cases hc
      exact ⟨j, hm, hj, rfl, hs⟩
    · rintro ⟨i, hm, hi, rfl, hs⟩
      exact ⟨true, _, hm, getElem?_contexts hi, rfl, hs⟩

private theorem Carries.alt {n : Nat} {step step' : List Bool → List Bool}
    {R R' : Nat → Nat → Prop} (h : Carries n step R) (h' : Carries n step' R') :
    Carries n (fun marks => union (step marks) (step' marks)) fun i j => R i j ∨ R' i j where
  length hl := length_union (h.length hl) (h'.length hl)
  marked hl := by
    intro j
    rw [marked_union (h.length hl) (h'.length hl), h.marked hl, h'.marked hl, ← exists_or]
    simp only [and_or_left]

private theorem carries_times {least : Nat} {most : Option Nat}
    (hmost : most.all (least ≤ ·) = true) (h : Carries (t.length + 1) (ends t p) (Matches t p)) :
    Carries (t.length + 1) (ends t (.times p least most)) (Matches t (.times p least most)) := by
  refine ((h.iterate least).comp (h.spread _)).congr fun i j hi => ?_
  rw [matches_times_iff]
  constructor
  · rintro ⟨m, hleast, l, hl, hsteps⟩
    refine ⟨Nat.le_of_lt_succ hi, least + l, Nat.le_add_right _ _, fun n hn => ?_,
      steps_add.mpr ⟨m, hleast, hsteps⟩⟩
    cases hn
    simp only [Option.all_some, decide_eq_true_eq] at hmost
    dsimp only at hl
    omega
  · rintro ⟨hi, k, hk, hkn, hsteps⟩
    rw [← Nat.add_sub_cancel' hk] at hsteps
    obtain ⟨m, hleast, hsteps⟩ := steps_add.mp hsteps
    cases most with
    | some n => exact ⟨m, hleast, k - least, Nat.sub_le_sub_right (hkn n rfl) least, hsteps⟩
    | none =>
      have hwithin (i j : Nat) (_ : i ≤ t.length) (hm : Matches t p i j) : j ≤ t.length := hm.bounds.2
      have hm := hleast.keep (P := (· ≤ t.length)) hwithin hi
      have hj := hsteps.keep (P := (· ≤ t.length)) hwithin hm
      obtain ⟨-, l, hl, hsteps⟩ := hsteps.shorten fun _ _ hm => hm.bounds.1
      refine ⟨m, hleast, l, ?_, hsteps⟩
      dsimp only
      omega

private theorem carries_ends (t : List Char) (h : p.isOrdered = true) :
    Carries (t.length + 1) (ends t p) (Matches t p) := by
  induction p with
  | empty =>
    refine ⟨fun hl => hl, fun {marks} hl {j} => ?_⟩
    simp only [matches_empty_iff, ends]
    constructor
    · intro hj
      have := hj.lt_length
      exact ⟨j, hj, by omega, rfl⟩
    · rintro ⟨i, hi, -, rfl⟩
      exact hi
  | chars s => exact carries_chars t s
  | look l => exact carries_look t l
  | seq p q ihp ihq =>
    rw [isOrdered, Bool.and_eq_true] at h
    refine ((ihp h.1).comp (ihq h.2)).congr fun i j _ => ?_
    exact matches_seq_iff.symm
  | alt p q ihp ihq =>
    rw [isOrdered, Bool.and_eq_true] at h
    exact ((ihp h.1).alt (ihq h.2)).congr fun i j _ => matches_alt_iff.symm
  | times p least most ih =>
    rw [isOrdered, Bool.and_eq_true] at h
    exact carries_times h.2 (ih h.1)
  | group p ih => exact (ih h).congr fun i j _ => matches_group_iff.symm

/-- The search finds a pattern exactly where it occurs. -/
theorem occursIn_iff_occurs (h : p.isOrdered = true) : p.occursIn t = true ↔ p.Occurs t := by
  have hcarries := carries_ends t h
  rw [occursIn, any_id_iff]
  simp only [hcarries.marked List.length_replicate, Occurs]
  constructor
  · rintro ⟨j, i, -, hm⟩
    exact ⟨i, j, hm⟩
  · rintro ⟨i, j, hm⟩
    have hi : i < t.length + 1 := Nat.lt_succ_of_le (Nat.le_trans hm.bounds.1 hm.bounds.2)
    exact ⟨j, i, by simp [Marked, hi], hm⟩

end Search
end TableAudit.Pattern
