import Mathlib.Data.List.Basic
import TableAudit.Schema.Basic

/-! The first name of a column that is not in order. -/
namespace TableAudit

/-- What happens at the first place where anything does. -/
def First {ε : Type} (P : Nat → ε → Prop) (e : ε) : Prop := ∃ i, P i e ∧ ∀ j < i, ∀ e', ¬ P j e'

section First
variable {ε : Type} {P Q : Nat → ε → Prop} {e e' : ε}

theorem First.of_zero (h : P 0 e) : First P e := ⟨0, h, fun _ hj => absurd hj (Nat.not_lt_zero _)⟩

theorem First.succ (h0 : ∀ e', ¬ P 0 e') (hQ : ∀ i e', P (i + 1) e' ↔ Q i e') (h : First Q e) :
    First P e := by
  obtain ⟨i, hi, hfirst⟩ := h
  refine ⟨i + 1, (hQ i e).mpr hi, fun j hj e' hP => ?_⟩
  cases j with
  | zero => exact h0 e' hP
  | succ j => exact hfirst j (Nat.lt_of_succ_lt_succ hj) e' ((hQ j e').mp hP)

theorem First.unique (hP : ∀ {i e e'}, P i e → P i e' → e = e') (h : First P e)
    (h' : First P e') : e = e' := by
  obtain ⟨i, hi, hfirst⟩ := h
  obtain ⟨j, hj, hfirst'⟩ := h'
  rcases Nat.lt_trichotomy i j with hlt | rfl | hlt
  · exact absurd hi (hfirst' i hlt e)
  · exact hP hi hj
  · exact absurd hj (hfirst j hlt e')

end First

/-- A sequence of computations fails with the first error, or all of them succeed. -/
theorem mapM_cases {α β ε : Type} (f : α → Except ε β) (as : List α) :
    (∃ e, First (fun i e => ∃ a, as[i]? = some a ∧ f a = .error e) e ∧ as.mapM f = .error e) ∨
      (∀ a ∈ as, ∃ b, f a = .ok b) ∧ ∃ bs, as.mapM f = .ok bs := by
  induction as with
  | nil => exact .inr ⟨by simp, [], rfl⟩
  | cons a as ih =>
    rw [List.mapM_cons]
    cases ha : f a with
    | error e => exact .inl ⟨e, .of_zero ⟨a, rfl, ha⟩, rfl⟩
    | ok b =>
      have hwell (e : ε) : ¬ ∃ a', (a :: as)[0]? = some a' ∧ f a' = .error e := by
        rintro ⟨_, h, he⟩
        cases h
        cases ha.symm.trans he
      rcases ih with ⟨e, hfirst, he⟩ | ⟨hall, bs, hbs⟩
      · exact .inl ⟨e, hfirst.succ hwell fun _ _ => .rfl, by rw [he]; rfl⟩
      · exact .inr ⟨List.forall_mem_cons.mpr ⟨⟨b, ha⟩, hall⟩, b :: bs, by rw [hbs]; rfl⟩

namespace Schema

private theorem checkNamesFrom_eq_ok_iff (seen names : List String) :
    checkNamesFrom seen names = .ok () ↔
      "" ∉ names ∧ names.Nodup ∧ ∀ n ∈ names, n ∉ seen := by
  induction names generalizing seen with
  | nil => simp [checkNamesFrom]
  | cons n names ih =>
    rw [checkNamesFrom]
    by_cases hempty : n = ""
    · simp [hempty]
    by_cases hseen : n ∈ seen
    · simp [hempty, hseen]
    · rw [if_neg hempty, if_neg hseen, ih]
      simp only [List.mem_cons, List.nodup_cons, not_or, forall_eq_or_imp]
      constructor
      · rintro ⟨hnames, hnodup, hfresh⟩
        exact ⟨⟨Ne.symm hempty, hnames⟩, ⟨fun hmem => (hfresh n hmem).1 rfl, hnodup⟩, hseen,
          fun m hm => (hfresh m hm).2⟩
      · rintro ⟨⟨-, hnames⟩, ⟨hnew, hnodup⟩, -, hfresh⟩
        exact ⟨hnames, hnodup, fun m hm => ⟨fun h => hnew (h ▸ hm), hfresh m hm⟩⟩

/-- What is wrong at a place among names that stand behind others: a name is empty, or there is the
same one before it. -/
inductive NameDefect (seen names : List String) : Nat → SchemaError → Prop
  | empty {i} : names[i]? = some "" → NameDefect seen names i .emptyName
  | repeated {i n} : names[i]? = some n → n ≠ "" → n ∈ seen ++ names.take i →
      NameDefect seen names i (.repeatedName n)

private theorem not_nameDefect_nil {seen : List String} {i : Nat} {e : SchemaError} :
    ¬ NameDefect seen [] i e := by
  rintro (hi | hi) <;> cases hi

private theorem nameDefect_cons_zero {seen names : List String} {n : String} {e : SchemaError} :
    NameDefect seen (n :: names) 0 e ↔
      n = "" ∧ e = .emptyName ∨ n ≠ "" ∧ n ∈ seen ∧ e = .repeatedName n := by
  constructor
  · intro h
    cases h with
    | empty hi => exact .inl ⟨Option.some.inj hi, rfl⟩
    | repeated hi hne hmem =>
      cases hi
      exact .inr ⟨hne, by simpa using hmem, rfl⟩
  · rintro (⟨rfl, rfl⟩ | ⟨hne, hmem, rfl⟩)
    · exact .empty rfl
    · exact .repeated rfl hne (by simpa using hmem)

private theorem nameDefect_cons_succ {seen names : List String} {n : String} {i : Nat}
    {e : SchemaError} :
    NameDefect seen (n :: names) (i + 1) e ↔ NameDefect (n :: seen) names i e := by
  have hmem (m : String) : m ∈ seen ++ (n :: names).take (i + 1) ↔
      m ∈ (n :: seen) ++ names.take i := by
    simp only [List.take_succ_cons, List.mem_append, List.mem_cons]
    tauto
  constructor
  · intro h
    cases h with
    | empty hi => exact .empty hi
    | repeated hi hne hm => exact .repeated hi hne ((hmem _).mp hm)
  · intro h
    cases h with
    | empty hi => exact .empty hi
    | repeated hi hne hm => exact .repeated hi hne ((hmem _).mpr hm)

/-- The check stops at the first defect, or there is none. -/
theorem checkNamesFrom_cases (seen names : List String) :
    (∃ e, First (NameDefect seen names) e ∧ checkNamesFrom seen names = .error e) ∨
      (∀ i e, ¬ NameDefect seen names i e) ∧ checkNamesFrom seen names = .ok () := by
  induction names generalizing seen with
  | nil => exact .inr ⟨fun _ _ => not_nameDefect_nil, rfl⟩
  | cons n names ih =>
    rw [checkNamesFrom]
    split_ifs with hempty hseen
    · exact .inl ⟨_, .of_zero (nameDefect_cons_zero.mpr (.inl ⟨hempty, rfl⟩)), rfl⟩
    · exact .inl ⟨_, .of_zero (nameDefect_cons_zero.mpr (.inr ⟨hempty, hseen, rfl⟩)), rfl⟩
    have hwell (e : SchemaError) : ¬ NameDefect seen (n :: names) 0 e := by
      rw [nameDefect_cons_zero]
      rintro (⟨h, -⟩ | ⟨-, h, -⟩)
      · exact hempty h
      · exact hseen h
    rcases ih (n :: seen) with ⟨e, hfirst, he⟩ | ⟨hnone, hok⟩
    · exact .inl ⟨e, hfirst.succ hwell fun _ _ => nameDefect_cons_succ, he⟩
    · refine .inr ⟨fun i e h => ?_, hok⟩
      cases i with
      | zero => exact hwell e h
      | succ i => exact hnone i e (nameDefect_cons_succ.mp h)

theorem checkNames_eq_ok_iff (s : Schema) :
    s.checkNames = .ok () ↔ "" ∉ s.names ∧ s.names.Nodup := by
  simp [checkNames, checkNamesFrom_eq_ok_iff]

/-- A name that is refused as repeated comes twice. -/
theorem not_nodup_of_checkNames {s : Schema} {n : String}
    (h : s.checkNames = .error (.repeatedName n)) : ¬ s.names.Nodup := by
  intro hnodup
  rcases checkNamesFrom_cases [] s.names with ⟨e, ⟨i, hdefect, -⟩, he⟩ | ⟨-, hok⟩
  · cases he.symm.trans h
    cases hdefect with
    | repeated hi _ hmem =>
      obtain ⟨j, hj, hname⟩ := List.mem_take_iff_getElem.mp hmem
      obtain ⟨hji, hlt⟩ := Nat.lt_min.mp hj
      have hsame : s.names[j]? = s.names[i]? := by rw [hi, List.getElem?_eq_getElem hlt, hname]
      exact absurd ((List.getElem?_inj hlt hnodup).mp hsame) (Nat.ne_of_lt hji)
  · cases hok.symm.trans h

end Schema
end TableAudit
