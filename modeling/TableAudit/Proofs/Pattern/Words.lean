import TableAudit.Proofs.Pattern.Search
import TableAudit.Proofs.Text.Sets

/-! The words of patterns without conditions, which do not depend on where they stand. -/
namespace TableAudit.Pattern

/-- The texts that a pattern matches from end to end, wherever they stand. Conditions on what stands
beside a position have none. -/
def Word : Pattern → List Char → Prop
  | .empty, u => u = []
  | .chars s, u => ∃ c, u = [c] ∧ s.contains c = true
  | .look _, _ => False
  | .seq p q, u => ∃ v w, u = v ++ w ∧ p.Word v ∧ q.Word w
  | .alt p q, u => p.Word u ∨ q.Word u
  | .times p least most, u => ∃ us : List (List Char), u = us.flatten ∧ least ≤ us.length ∧
      (∀ n ∈ most, us.length ≤ n) ∧ ∀ v ∈ us, p.Word v
  | .group p, u => p.Word u

def isFree : Pattern → Bool
  | .look _ => false
  | .seq p q | .alt p q => p.isFree && q.isFree
  | .times p _ _ | .group p => p.isFree
  | .empty | .chars _ => true

def Spans (t : List Char) (p : Pattern) (i j : Nat) : Prop :=
  ∃ a u b, t = a ++ u ++ b ∧ a.length = i ∧ a.length + u.length = j ∧ p.Word u

section Spans

variable {t : List Char} {p : Pattern} {i j k : Nat}

private theorem exists_split (hi : i ≤ t.length) : ∃ a b, t = a ++ b ∧ a.length = i :=
  ⟨t.take i, t.drop i, (List.take_append_drop i t).symm, List.length_take_of_le hi⟩

private theorem split_at {a u b a' v b' : List Char} (heq : a ++ u ++ b = a' ++ v ++ b')
    (hlength : a'.length = a.length + u.length) : a ++ u = a' ∧ b = v ++ b' := by
  rw [List.append_assoc a'] at heq
  exact List.append_inj heq (by rw [List.length_append, hlength])

private theorem steps_spans_iff : i ≤ t.length ∧ Steps (Spans t p) k i j ↔
    ∃ (a : List Char) (us : List (List Char)) (b : List Char), t = a ++ us.flatten ++ b ∧
      a.length = i ∧ a.length + us.flatten.length = j ∧ us.length = k ∧ ∀ v ∈ us, p.Word v := by
  constructor
  · rintro ⟨hi, h⟩
    induction k generalizing i with
    | zero =>
      obtain rfl : i = j := h
      obtain ⟨a, b, rfl, rfl⟩ := exists_split hi
      exact ⟨a, [], b, by simp, rfl, rfl, rfl, by simp⟩
    | succ k ih =>
      obtain ⟨m, ⟨a, u, b, rfl, rfl, rfl, hu⟩, h⟩ := h
      obtain ⟨a', us, b', heq, ha', rfl, rfl, hus⟩ := ih (by simp) h
      obtain ⟨rfl, rfl⟩ := split_at heq ha'
      refine ⟨a, u :: us, b', by simp, rfl, by simp [Nat.add_assoc], rfl, ?_⟩
      exact List.forall_mem_cons.mpr ⟨hu, hus⟩
  · rintro ⟨a, us, b, rfl, rfl, rfl, rfl, hus⟩
    refine ⟨by simp, ?_⟩
    induction us generalizing a with
    | nil => simp [Steps]
    | cons u us ih =>
      rw [List.forall_mem_cons] at hus
      have hrest := ih (a ++ u) hus.2
      refine ⟨a.length + u.length, ⟨a, u, us.flatten ++ b, by simp, rfl, rfl, hus.1⟩, ?_⟩
      simpa [Nat.add_assoc] using hrest

private theorem matches_iff_spans (h : p.isFree = true) : Matches t p i j ↔ Spans t p i j := by
  induction p generalizing i j with
  | empty =>
    rw [matches_empty_iff]
    constructor
    · rintro ⟨hi, rfl⟩
      obtain ⟨a, b, rfl, rfl⟩ := exists_split hi
      exact ⟨a, [], b, by simp, rfl, rfl, rfl⟩
    · rintro ⟨a, u, b, rfl, rfl, rfl, rfl⟩
      simp
  | chars s =>
    rw [matches_chars_iff]
    constructor
    · rintro ⟨c, hc, hs, rfl⟩
      obtain ⟨hi, rfl⟩ := List.getElem?_eq_some_iff.mp hc
      have hlength : (t.take i).length = i := List.length_take_of_le (Nat.le_of_lt hi)
      refine ⟨t.take i, [t[i]], t.drop (i + 1), by simp, hlength, ?_, _, rfl, hs⟩
      rw [hlength, List.length_singleton]
    · rintro ⟨a, u, b, rfl, rfl, rfl, c, rfl, hs⟩
      exact ⟨c, by simp, hs, rfl⟩
  | look l => cases h
  | seq p q ihp ihq =>
    rw [isFree, Bool.and_eq_true] at h
    simp only [matches_seq_iff, ihp h.1, ihq h.2]
    constructor
    · rintro ⟨m, ⟨a, u, b, rfl, rfl, rfl, hu⟩, a', v, b', heq, ha', rfl, hv⟩
      obtain ⟨rfl, rfl⟩ := split_at heq ha'
      exact ⟨a, u ++ v, b', by simp, rfl, by simp [Nat.add_assoc], u, v, rfl, hu, hv⟩
    · rintro ⟨a, _, b, rfl, rfl, rfl, u, v, rfl, hu, hv⟩
      refine ⟨a.length + u.length, ⟨a, u, v ++ b, by simp, rfl, rfl, hu⟩, ?_⟩
      exact ⟨a ++ u, v, b, by simp, by simp, by simp [Nat.add_assoc], hv⟩
  | alt p q ihp ihq =>
    rw [isFree, Bool.and_eq_true] at h
    rw [matches_alt_iff, ihp h.1, ihq h.2]
    constructor
    · rintro (⟨a, u, b, heq, hi, hj, hu⟩ | ⟨a, u, b, heq, hi, hj, hu⟩)
      · exact ⟨a, u, b, heq, hi, hj, .inl hu⟩
      · exact ⟨a, u, b, heq, hi, hj, .inr hu⟩
    · rintro ⟨a, u, b, heq, hi, hj, hu | hu⟩
      · exact .inl ⟨a, u, b, heq, hi, hj, hu⟩
      · exact .inr ⟨a, u, b, heq, hi, hj, hu⟩
  | times p least most ih =>
    have hR : Matches t p = Spans t p := by
      funext i j
      exact propext (ih h)
    rw [matches_times_iff, hR]
    constructor
    · rintro ⟨hi, k, hk, hkn, hsteps⟩
      obtain ⟨a, us, b, rfl, rfl, rfl, rfl, hus⟩ := steps_spans_iff.mp ⟨hi, hsteps⟩
      exact ⟨a, us.flatten, b, rfl, rfl, rfl, us, rfl, hk, hkn, hus⟩
    · rintro ⟨a, _, b, rfl, rfl, rfl, us, rfl, hk, hkn, hus⟩
      obtain ⟨hi, hsteps⟩ := steps_spans_iff.mpr ⟨a, us, b, rfl, rfl, rfl, rfl, hus⟩
      exact ⟨hi, us.length, hk, hkn, hsteps⟩
  | group p ih =>
    rw [matches_group_iff]
    exact ih h

end Spans

section Whole

variable {t u : List Char} {p : Pattern} {ps : List Pattern} {i j : Nat}

private theorem matches_seqAll_cons :
    Matches t (seqAll (p :: ps)) i j ↔ ∃ m, Matches t p i m ∧ Matches t (seqAll ps) m j := by
  cases ps with
  | nil =>
    simp only [seqAll, matches_empty_iff]
    constructor
    · intro h
      exact ⟨j, h, h.bounds.2, rfl⟩
    · rintro ⟨m, h, -, rfl⟩
      exact h
  | cons q qs => exact matches_seq_iff

theorem word_seqAll_cons :
    (seqAll (p :: ps)).Word u ↔ ∃ v w, u = v ++ w ∧ p.Word v ∧ (seqAll ps).Word w := by
  cases ps with
  | nil =>
    constructor
    · intro h
      exact ⟨u, [], (List.append_nil u).symm, h, rfl⟩
    · rintro ⟨v, w, rfl, hv, rfl⟩
      rwa [List.append_nil]
  | cons q qs => exact .rfl

private theorem isFree_seqAll (h : ∀ p ∈ ps, p.isFree = true) : (seqAll ps).isFree = true := by
  induction ps with
  | nil => rfl
  | cons p ps ih =>
    rw [List.forall_mem_cons] at h
    cases ps with
    | nil => exact h.1
    | cons q qs => exact (Bool.and_eq_true _ _).mpr ⟨h.1, ih h.2⟩

private theorem isOrdered_seqAll (h : ∀ p ∈ ps, p.isOrdered = true) :
    (seqAll ps).isOrdered = true := by
  induction ps with
  | nil => rfl
  | cons p ps ih =>
    rw [List.forall_mem_cons] at h
    cases ps with
    | nil => exact h.1
    | cons q qs => exact (Bool.and_eq_true _ _).mpr ⟨h.1, ih h.2⟩

private theorem matches_whole_iff :
    Matches t (whole ps) i j ↔ i = 0 ∧ j = t.length ∧ Matches t (seqAll ps) 0 t.length := by
  have hfinish {qs : List Pattern} {i : Nat} : Matches t (seqAll (qs ++ [.look .finish])) i j ↔
      j = t.length ∧ Matches t (seqAll qs) i j := by
    induction qs generalizing i with
    | nil =>
      simp only [List.nil_append, seqAll, matches_look_iff, matches_empty_iff, Look.holds,
        Option.isNone_iff_eq_none, List.getElem?_eq_none_iff]
      omega
    | cons q qs ih =>
      simp only [List.cons_append, matches_seqAll_cons, ih]
      exact ⟨fun ⟨m, hq, hj, h⟩ => ⟨hj, m, hq, h⟩, fun ⟨hj, m, hq, h⟩ => ⟨m, hq, hj, h⟩⟩
  rw [whole, List.cons_append, matches_seqAll_cons]
  simp only [matches_look_iff, hfinish, Look.holds]
  constructor
  · rintro ⟨m, ⟨hi, rfl, hstart⟩, rfl, h⟩
    have hi : i = 0 := by
      by_contra hne
      have hpos : i - 1 < t.length := by omega
      simp [before?, hne, hpos] at hstart
    subst hi
    exact ⟨rfl, rfl, h⟩
  · rintro ⟨rfl, rfl, h⟩
    exact ⟨0, ⟨Nat.zero_le _, rfl, rfl⟩, rfl, h⟩

/-- A pattern for the whole text is found in the words of its parts. -/
theorem occursIn_whole_iff (hordered : ∀ p ∈ ps, p.isOrdered = true)
    (hfree : ∀ p ∈ ps, p.isFree = true) : (whole ps).occursIn t = true ↔ (seqAll ps).Word t := by
  have hwhole : (whole ps).isOrdered = true := by
    apply isOrdered_seqAll
    simpa [isOrdered, or_imp, forall_and] using hordered
  rw [occursIn_iff_occurs hwhole, Occurs]
  simp only [matches_whole_iff, matches_iff_spans (isFree_seqAll hfree)]
  constructor
  · rintro ⟨i, j, -, -, a, u, b, rfl, ha, hu, hword⟩
    obtain rfl := List.length_eq_zero_iff.mp ha
    obtain rfl : b = [] := by simpa using hu
    simpa using hword
  · intro hword
    exact ⟨0, t.length, rfl, rfl, [], t, [], by simp, rfl, by simp, hword⟩

end Whole

section Parts

variable {u : List Char} {p : Pattern} {c : Char} {m n : Nat}

theorem word_char_iff : (char c).Word u ↔ u = [c] := by
  simp [char, Word, CharSet.contains_single_iff]

/-- As many characters of a set as the bounds allow. -/
theorem word_times_chars_iff {s : CharSet} {most : Option Nat} :
    (Pattern.times (.chars s) m most).Word u ↔
      m ≤ u.length ∧ (∀ n ∈ most, u.length ≤ n) ∧ ∀ c ∈ u, s.contains c = true := by
  have hlength {us : List (List Char)} (hus : ∀ v ∈ us, (Pattern.chars s).Word v) :
      us.flatten.length = us.length ∧ ∀ c ∈ us.flatten, s.contains c = true := by
    induction us with
    | nil => simp
    | cons v us ih =>
      rw [List.forall_mem_cons] at hus
      obtain ⟨⟨c, rfl, hc⟩, hus⟩ := hus
      obtain ⟨hlength, hall⟩ := ih hus
      exact ⟨by simp [hlength], List.forall_mem_cons.mpr ⟨hc, hall⟩⟩
  constructor
  · rintro ⟨us, rfl, hm, hn, hus⟩
    obtain ⟨hlength, hall⟩ := hlength hus
    rw [hlength]
    exact ⟨hm, hn, hall⟩
  · rintro ⟨hm, hn, hall⟩
    refine ⟨u.map fun c => [c], ?_, by simpa using hm, by simpa using hn, by simpa [Word] using hall⟩
    rw [← List.flatMap_def, List.flatMap_singleton']

theorem word_exactly_digit_iff :
    (exactly digit n).Word u ↔ u.length = n ∧ ∀ c ∈ u, Text.isDecimalDigit c = true := by
  simp only [exactly, digit, word_times_chars_iff, Option.mem_some_iff, forall_eq',
    CharSet.contains_decimalDigits]
  rw [← and_assoc, Nat.le_antisymm_iff, and_comm (a := n ≤ _)]

theorem word_between_digit_iff : (between digit m n).Word u ↔
    m ≤ u.length ∧ u.length ≤ n ∧ ∀ c ∈ u, Text.isDecimalDigit c = true := by
  simp only [between, digit, word_times_chars_iff, Option.mem_some_iff, forall_eq',
    CharSet.contains_decimalDigits]

theorem word_optional_iff : (optional p).Word u ↔ u = [] ∨ p.Word u := by
  constructor
  · rintro ⟨us, rfl, -, hn, hus⟩
    have hle := hn 1 rfl
    rcases us with _ | ⟨v, _ | ⟨w, us⟩⟩
    · exact .inl rfl
    · exact .inr (by simpa using hus)
    · simp at hle
  · rintro (rfl | hu)
    · exact ⟨[], rfl, by simp, by simp, by simp⟩
    · exact ⟨[u], by simp, by simp, by simp, by simpa using hu⟩

end Parts
end TableAudit.Pattern
