import Mathlib.Data.Set.Card
import TableAudit.Proofs.Plan.Cache

/-! How long a cache keeps its plans, over rows of calls. -/
namespace TableAudit.PlanCache

def Call.Drops (k : String) : Call → Prop
  | invalidate s => s.fingerprint = k
  | clear => True
  | get _ | contains _ => False

section Step
variable {c : PlanCache} {s : Schema} {k : String} {shared : SharedPlan} {call : Call}

private theorem get_of_entry (h : c.entries[s.fingerprint]? = some shared) :
    c.get s = (.ok shared, c) := by
  rw [get, h]

private theorem get_eq_ok (h : (c.get s).1 = .ok shared) :
    c.entries[s.fingerprint]? = some shared ∧ (c.get s).2 = c ∨
      c.entries[s.fingerprint]? = none ∧ shared.number = c.made ∧ (c.get s).2 =
        { c with made := c.made + 1, entries := c.entries.insert s.fingerprint shared } := by
  cases hentry : c.entries[s.fingerprint]? with
  | some old =>
    rw [get_of_entry hentry] at h ⊢
    cases h
    exact .inl ⟨rfl, rfl⟩
  | none =>
    rw [get, hentry] at h ⊢
    cases hp : s.plan c.source with
    | error e =>
      rw [hp] at h
      cases h
    | ok plan =>
      rw [hp] at h
      cases h
      exact .inr ⟨rfl, rfl, rfl⟩

private theorem get_eq_error {e : PlanError} (h : (c.get s).1 = .error e) : (c.get s).2 = c := by
  cases hentry : c.entries[s.fingerprint]? with
  | some old => rw [get_of_entry hentry]
  | none =>
    rw [get, hentry] at h ⊢
    cases hp : s.plan c.source with
    | error e => rfl
    | ok plan =>
      rw [hp] at h
      cases h

private theorem entry_get_iff : (c.get s).2.entries[k]? = some shared ↔
    c.entries[k]? = some shared ∨ s.fingerprint = k ∧ (c.get s).1 = .ok shared := by
  cases h : (c.get s).1 with
  | error e => simp [get_eq_error h]
  | ok given =>
    rw [Except.ok.injEq]
    rcases get_eq_ok h with ⟨hentry, hsame⟩ | ⟨hnone, -, hnew⟩
    · rw [hsame]
      refine ⟨.inl, ?_⟩
      rintro (hk | ⟨rfl, rfl⟩)
      · exact hk
      · exact hentry
    · rw [hnew, Std.TreeMap.getElem?_insert]
      by_cases hk : s.fingerprint = k
      · subst hk
        simp [hnone]
      · simp [hk]

private theorem entry_step_iff : (c.step call).entries[k]? = some shared ↔
    c.entries[k]? = some shared ∧ ¬ call.Drops k ∨
      ∃ s, call = .get s ∧ s.fingerprint = k ∧ (c.get s).1 = .ok shared := by
  cases call with
  | get s => simp [step, entry_get_iff, Call.Drops]
  | contains s => simp [step, Call.Drops]
  | invalidate s =>
    rw [step, invalidate, Std.TreeMap.getElem?_erase]
    by_cases hk : s.fingerprint = k <;> simp [Call.Drops, hk]
  | clear => simp [step, clear, Call.Drops]

private theorem entry_step_of_drops (h : call.Drops k) : (c.step call).entries[k]? = none := by
  rw [Option.eq_none_iff_forall_ne_some]
  intro shared hk
  rcases entry_step_iff.mp hk with ⟨-, hnot⟩ | ⟨s, rfl, -⟩
  · exact hnot h
  · exact h

private theorem made_le_step (c : PlanCache) (call : Call) : c.made ≤ (c.step call).made := by
  cases call with
  | get s =>
    cases h : (c.get s).1 with
    | error e => rw [step, get_eq_error h]
    | ok shared =>
      rcases get_eq_ok h with ⟨-, hsame⟩ | ⟨-, -, hnew⟩
      · rw [step, hsame]
      · rw [step, hnew]
        exact Nat.le_succ _
  | contains | invalidate | clear => exact Nat.le_refl _

private theorem number_of_entry_step (h : (c.step call).entries[k]? = some shared) :
    c.entries[k]? = some shared ∨ shared.number = c.made ∧ c.made < (c.step call).made := by
  rcases entry_step_iff.mp h with ⟨hold, -⟩ | ⟨s, rfl, rfl, hget⟩
  · exact .inl hold
  · rcases get_eq_ok hget with ⟨hold, -⟩ | ⟨-, hnumber, hnew⟩
    · exact .inl hold
    · rw [step, hnew]
      exact .inr ⟨hnumber, Nat.lt_succ_self _⟩

def Counted (c : PlanCache) : Prop :=
  ∀ (k : String) (shared : SharedPlan), c.entries[k]? = some shared → shared.number < c.made

private theorem counted_empty (source : LocaleSource) : (empty source).Counted := by
  intro k shared h
  simp [empty] at h

private theorem Counted.step (h : c.Counted) (call : Call) : (c.step call).Counted := by
  intro k shared hk
  rcases number_of_entry_step hk with hold | ⟨hnumber, hmade⟩
  · exact Nat.lt_of_lt_of_le (h k shared hold) (made_le_step c call)
  · exact hnumber ▸ hmade

/-- Neither the plan with a fingerprint nor a plan to come has a number below this one. -/
def CountedFrom (n : Nat) (k : String) (c : PlanCache) : Prop :=
  n ≤ c.made ∧ ∀ shared : SharedPlan, c.entries[k]? = some shared → n ≤ shared.number

private theorem CountedFrom.step {n : Nat} (h : c.CountedFrom n k) (call : Call) :
    (c.step call).CountedFrom n k := by
  obtain ⟨hmade, hentry⟩ := h
  refine ⟨Nat.le_trans hmade (made_le_step c call), fun shared hk => ?_⟩
  rcases number_of_entry_step hk with hold | ⟨hnumber, -⟩
  · exact hentry shared hold
  · exact hnumber ▸ hmade

end Step

section Run
variable {source : LocaleSource} {calls : List Call} {k : String} {shared a b : SharedPlan}
  {i j m n : Nat} {call : Call}

def behind (source : LocaleSource) (calls : List Call) (n : Nat) : PlanCache :=
  (empty source).run (calls.take n)

def Given (source : LocaleSource) (calls : List Call) (i : Nat) (k : String)
    (shared : SharedPlan) : Prop :=
  ∃ s, calls[i]? = some (.get s) ∧ s.fingerprint = k ∧
    ((behind source calls i).get s).1 = .ok shared

/-- No call between two others drops the plan with a fingerprint. -/
def Kept (calls : List Call) (k : String) (i n : Nat) : Prop :=
  ∀ m call, i < m → m < n → calls[m]? = some call → ¬ call.Drops k

/-- A plan with a fingerprint was given and not dropped since. -/
def Live (source : LocaleSource) (calls : List Call) (k : String) : Prop :=
  ∃ i shared, Given source calls i k shared ∧ Kept calls k i calls.length

theorem behind_zero (source : LocaleSource) (calls : List Call) :
    behind source calls 0 = empty source := rfl

private theorem behind_length (source : LocaleSource) (calls : List Call) :
    behind source calls calls.length = (empty source).run calls := by
  rw [behind, List.take_length]

private theorem behind_succ (h : calls[n]? = some call) :
    behind source calls (n + 1) = (behind source calls n).step call := by
  rw [behind, List.take_add_one, h, Option.toList_some, run, List.foldl_append]
  rfl

private theorem behind_succ_of_none (h : calls[n]? = none) :
    behind source calls (n + 1) = behind source calls n := by
  rw [behind, behind, List.take_add_one, h, Option.toList_none, List.append_nil]

private theorem behind_induction {P : PlanCache → Prop} (hstep : ∀ c call, P c → P (c.step call))
    (h : m ≤ n) (hm : P (behind source calls m)) : P (behind source calls n) := by
  induction n, h using Nat.le_induction with
  | base => exact hm
  | succ n _ ih =>
    cases hcall : calls[n]? with
    | none => rwa [behind_succ_of_none hcall]
    | some call =>
      rw [behind_succ hcall]
      exact hstep _ call ih

private theorem counted_behind (source : LocaleSource) (calls : List Call) (n : Nat) :
    (behind source calls n).Counted :=
  behind_induction (fun _ call h => h.step call) (Nat.zero_le n) (counted_empty source)

private theorem made_behind_le (h : m ≤ n) :
    (behind source calls m).made ≤ (behind source calls n).made :=
  behind_induction (P := fun c => (behind source calls m).made ≤ c.made)
    (fun c call ih => Nat.le_trans ih (made_le_step c call)) h (Nat.le_refl _)

private theorem kept_succ_iff (hi : i < n) : Kept calls k i (n + 1) ↔
    Kept calls k i n ∧ ∀ call, calls[n]? = some call → ¬ call.Drops k := by
  constructor
  · intro hkept
    exact ⟨fun m call hm hmn => hkept m call hm (Nat.lt_succ_of_lt hmn),
      fun call => hkept n call hi n.lt_succ_self⟩
  · rintro ⟨hkept, hlast⟩ m call hm hmn
    rcases Nat.lt_succ_iff_lt_or_eq.mp hmn with hlt | rfl
    · exact hkept m call hm hlt
    · exact hlast call

private theorem kept_succ_self (calls : List Call) (k : String) (i : Nat) :
    Kept calls k i (i + 1) := by
  intro m _ hm hmn
  omega

private theorem entry_behind_iff : (behind source calls n).entries[k]? = some shared ↔
    ∃ i < n, Given source calls i k shared ∧ Kept calls k i n := by
  induction n with
  | zero => simp [behind_zero, empty]
  | succ n ih =>
    have hsplit : (∃ i < n + 1, Given source calls i k shared ∧ Kept calls k i (n + 1)) ↔
        (∃ i < n, Given source calls i k shared ∧ Kept calls k i n) ∧
          (∀ call, calls[n]? = some call → ¬ call.Drops k) ∨ Given source calls n k shared := by
      constructor
      · rintro ⟨i, hi, hgiven, hkept⟩
        rcases Nat.lt_succ_iff_lt_or_eq.mp hi with hlt | rfl
        · obtain ⟨hkept, hlast⟩ := (kept_succ_iff hlt).mp hkept
          exact .inl ⟨⟨i, hlt, hgiven, hkept⟩, hlast⟩
        · exact .inr hgiven
      · rintro (⟨⟨i, hlt, hgiven, hkept⟩, hlast⟩ | hgiven)
        · exact ⟨i, Nat.lt_succ_of_lt hlt, hgiven, (kept_succ_iff hlt).mpr ⟨hkept, hlast⟩⟩
        · exact ⟨n, n.lt_succ_self, hgiven, kept_succ_self calls k n⟩
    rw [hsplit]
    cases hcall : calls[n]? with
    | none => simp [behind_succ_of_none hcall, ih, Given, hcall]
    | some call =>
      rw [behind_succ hcall, entry_step_iff, ih]
      simp [Given, hcall]

private theorem Given.lt_length (h : Given source calls i k shared) : i < calls.length := by
  obtain ⟨s, hs, -⟩ := h
  exact (List.getElem?_eq_some_iff.mp hs).1

private theorem Given.entry (h : Given source calls i k shared) :
    (behind source calls (i + 1)).entries[k]? = some shared :=
  entry_behind_iff.mpr ⟨i, i.lt_succ_self, h, kept_succ_self calls k i⟩

private theorem Given.eq_of_kept (ha : Given source calls i k a) (hb : Given source calls j k b)
    (hij : i < j) (hkept : Kept calls k i j) : a = b := by
  have hentry : (behind source calls j).entries[k]? = some a :=
    entry_behind_iff.mpr ⟨i, hij, ha, hkept⟩
  obtain ⟨s, -, rfl, hget⟩ := hb
  rw [get_of_entry hentry] at hget
  exact Except.ok.inj hget

private theorem Given.number_lt_of_not_kept (ha : Given source calls i k a)
    (hb : Given source calls j k b) (hnot : ¬ Kept calls k i j) : a.number < b.number := by
  rw [Kept] at hnot
  push Not at hnot
  obtain ⟨m, call, him, hmj, hcall, hdrops⟩ := hnot
  -- behind the call that drops the plan only larger numbers are given
  have hnone : (behind source calls (m + 1)).entries[k]? = none := by
    rw [behind_succ hcall]
    exact entry_step_of_drops hdrops
  have hfrom : (behind source calls (j + 1)).CountedFrom (behind source calls (m + 1)).made k :=
    behind_induction (fun _ call h => h.step call) (by omega) ⟨Nat.le_refl _, by simp [hnone]⟩
  calc a.number < (behind source calls (i + 1)).made := counted_behind source calls _ k a ha.entry
    _ ≤ (behind source calls (m + 1)).made := made_behind_le (by omega)
    _ ≤ b.number := hfrom.2 b hb.entry

private theorem mem_entries_run_iff (source : LocaleSource) (calls : List Call) (k : String) :
    k ∈ ((empty source).run calls).entries ↔ Live source calls k := by
  rw [Std.TreeMap.mem_iff_isSome_getElem?, Option.isSome_iff_exists, ← behind_length]
  simp only [entry_behind_iff, Live]
  constructor
  · rintro ⟨shared, i, -, hgiven, hkept⟩
    exact ⟨i, shared, hgiven, hkept⟩
  · rintro ⟨i, shared, hgiven, hkept⟩
    exact ⟨shared, i, hgiven.lt_length, hgiven, hkept⟩

end Run

/-- What a cache holds and answers behind a row of calls. -/
structure Lifetimes (source : LocaleSource) (calls : List Call) (c : PlanCache) : Prop where
  live : ∀ k, k ∈ c.entries ↔ Live source calls k
  contains : ∀ s, c.contains s = true ↔ Live source calls s.fingerprint
  invalidate : ∀ s, (c.invalidate s).1 = true ↔ Live source calls s.fingerprint
  finite : {k | Live source calls k}.Finite
  size : c.size = {k | Live source calls k}.ncard
  isEmpty : c.isEmpty = true ↔ c.size = 0
  planned : ∀ k shared, c.entries[k]? = some shared →
    ∃ s : Schema, s.fingerprint = k ∧ s.plan source = .ok shared.plan
  same : ∀ i j k a b, i < j → Given source calls i k a → Given source calls j k b →
    Kept calls k i j → a = b
  different : ∀ i j k a b, i < j → Given source calls i k a → Given source calls j k b →
    ¬ Kept calls k i j → a.number ≠ b.number
  failed : ∀ s e, (c.get s).1 = .error e → (c.get s).2 = c

/-- The plans of a cache live from the call that gives them until one that drops them, over every
row of calls. -/
theorem lifetimes_of_run (source : LocaleSource) (calls : List Call) :
    Lifetimes source calls ((empty source).run calls) := by
  have hlive := mem_entries_run_iff source calls
  have hcontains (s : Schema) :
      ((empty source).run calls).contains s = true ↔ Live source calls s.fingerprint := by
    rw [PlanCache.contains, Std.TreeMap.contains_iff_mem, hlive]
  have hset : {k | Live source calls k} =
      ↑((empty source).run calls).entries.keys.toFinset := by
    ext k
    simp [← hlive]
  exact {
    live := hlive
    contains := hcontains
    invalidate := hcontains
    finite := hset ▸ Finset.finite_toSet _
    size := by
      rw [hset, Set.ncard_coe_finset, List.toFinset_card_of_nodup Std.TreeMap.nodup_keys,
        Std.TreeMap.length_keys, PlanCache.size]
    isEmpty := by
      rw [PlanCache.isEmpty, Std.TreeMap.isEmpty_eq_size_eq_zero, PlanCache.size, beq_iff_eq]
    planned := fun k shared hk => by
      have hwithin : ∀ call ∈ calls, call.Within Set.univ := by
        rintro (_ | _ | _ | _) _
        all_goals trivial
      obtain ⟨s, -, hs, hp⟩ := ((faithful_empty source Set.univ).run hwithin).entry hk
      exact ⟨s, hs, hp⟩
    same := fun i j k a b hij ha hb => ha.eq_of_kept hb hij
    different := fun i j k a b _ ha hb hnot => Nat.ne_of_lt (ha.number_lt_of_not_kept hb hnot)
    failed := fun s e => get_eq_error }

end TableAudit.PlanCache
