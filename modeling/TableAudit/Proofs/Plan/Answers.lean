import Mathlib.Data.List.Forall2
import TableAudit.Plan.Schema
import TableAudit.Proofs.Plan.Layout

/-! Planning asks the check of a locale for its faults, and for its answers on values that are not
empty. -/
namespace TableAudit

def LocaleCheck.Agrees (k k' : LocaleCheck) : Prop :=
  ∀ value, value ≠ "" → k.judge value = k'.judge value ∧ k.readNumber value = k'.readNumber value

structure LocaleCheck.SameAnswers (k k' : LocaleCheck) : Prop where
  faults : k.faults = k'.faults
  agrees : k.Agrees k'

/-- Sources that have checks in the same cases, with the same faults and answers. -/
def LocaleSource.SameAnswers (source source' : LocaleSource) : Prop :=
  ∀ type locale base,
    Option.Rel LocaleCheck.SameAnswers (source.check? type locale base)
      (source'.check? type locale base)

/-- Checks that agree give readers that do. -/
theorem ColumnSpec.numberReader_eq {check check' : Option LocaleCheck}
    (h : Option.Rel LocaleCheck.Agrees check check') (c : ColumnSpec) {value : String}
    (hv : value ≠ "") : c.numberReader check value = c.numberReader check' value := by
  cases h with
  | none => rfl
  | some hk =>
    unfold numberReader
    cases c.cellType <;> first | rfl | exact (hk value hv).2

/-- Both fail with one error, or both succeed with related results. -/
inductive SameOutcome {ε α β : Type} (R : α → β → Prop) : Except ε α → Except ε β → Prop
  | ok {a b} : R a b → SameOutcome R (.ok a) (.ok b)
  | error (e : ε) : SameOutcome R (.error e) (.error e)

namespace SameOutcome
variable {ε α β γ δ : Type} {R : α → β → Prop} {S : γ → δ → Prop}

theorem bind {x : Except ε α} {y : Except ε β} {f : α → Except ε γ} {g : β → Except ε δ}
    (h : SameOutcome R x y) (hf : ∀ a b, R a b → SameOutcome S (f a) (g b)) :
    SameOutcome S (x >>= f) (y >>= g) := by
  cases h with
  | ok hab => exact hf _ _ hab
  | error e => exact .error e

/-- What comes behind the same step. -/
theorem bind_same (x : Except ε α) {f : α → Except ε γ} {g : α → Except ε δ}
    (hf : ∀ a, SameOutcome S (f a) (g a)) : SameOutcome S (x >>= f) (x >>= g) := by
  cases x with
  | ok a => exact hf a
  | error e => exact .error e

private theorem foldlM {ι : Type} {f : α → ι → Except ε α} {g : β → ι → Except ε β}
    (hf : ∀ a b i, R a b → SameOutcome R (f a i) (g b i)) (l : List ι) {a : α} {b : β}
    (h : R a b) : SameOutcome R (l.foldlM f a) (l.foldlM g b) := by
  induction l generalizing a b with
  | nil => exact .ok h
  | cons i l ih =>
    rw [List.foldlM_cons, List.foldlM_cons]
    exact (hf a b i h).bind fun _ _ => ih

theorem mapM {f : α → Except ε γ} {g : β → Except ε δ} {as : List α} {bs : List β}
    (h : List.Forall₂ (fun a b => SameOutcome S (f a) (g b)) as bs) :
    SameOutcome (List.Forall₂ S) (as.mapM f) (bs.mapM g) := by
  induction h with
  | nil => exact .ok .nil
  | cons hab _ ih =>
    rw [List.mapM_cons, List.mapM_cons]
    exact hab.bind fun _ _ hcd => ih.bind fun _ _ hrest => .ok (.cons hcd hrest)

/-- What follows for a success. -/
theorem exists_ok {x : Except ε α} {y : Except ε β} (h : SameOutcome R x y) {a : α}
    (hx : x = .ok a) : ∃ b, y = .ok b ∧ R a b := by
  cases h with
  | ok hab =>
    cases hx
    exact ⟨_, rfl, hab⟩
  | error e => cases hx

end SameOutcome

def Test.SameFaults (test test' : Test) : Prop :=
  ∀ code value, (CodedTest.mk test code).fault? value = (CodedTest.mk test' code).fault? value

private theorem Test.sameFaults_of_ne_empty {test test' : Test}
    (hempty : ∀ code, (CodedTest.mk test code).fault? "" = (CodedTest.mk test' code).fault? "")
    (h : ∀ code value, value ≠ "" →
      (CodedTest.mk test code).fault? value = (CodedTest.mk test' code).fault? value) :
    test.SameFaults test' := by
  intro code value
  by_cases hv : value = ""
  · rw [hv]
    exact hempty code
  · exact h code value hv

private theorem Test.sameFaults_locale {k k' : LocaleCheck} (h : k.SameAnswers k') :
    SameFaults (.locale k (ColumnSpec.offsetsOf k)) (.locale k' (ColumnSpec.offsetsOf k')) := by
  have hoffsets : ColumnSpec.offsetsOf k = ColumnSpec.offsetsOf k' := by
    rw [ColumnSpec.offsetsOf, ColumnSpec.offsetsOf, h.faults]
  apply sameFaults_of_ne_empty
  · intro code
    rfl
  · intro code value hv
    simp [CodedTest.fault?, hv, hoffsets, (h.agrees value hv).1]

/-- Drafts that go on at the same code and have the same notices, with tests that find the same
faults. -/
structure PlanDraft.SameFaults (d d' : PlanDraft) : Prop where
  next : d.next = d'.next
  notices : d.notices = d'.notices
  tests : List.Forall₂ (fun t t' => ∀ value, t.fault? value = t'.fault? value) d.tests d'.tests

namespace PlanDraft
variable {d d' : PlanDraft}

private theorem SameFaults.refl (d : PlanDraft) : d.SameFaults d :=
  ⟨rfl, rfl, List.forall₂_same.mpr fun _ _ _ => rfl⟩

private theorem SameFaults.add (h : d.SameFaults d') {test test' : Test}
    (ht : test.SameFaults test') (column : String) (width : Nat) (notices : List (UInt8 × Notice)) :
    SameOutcome SameFaults (d.add column width test notices)
      (d'.add column width test' notices) := by
  unfold PlanDraft.add
  rw [h.next]
  split
  · exact .error _
  · exact .ok ⟨rfl, by rw [h.notices], List.rel_append h.tests (.cons (ht d'.next) .nil)⟩

private theorem SameFaults.addOne (h : d.SameFaults d') {test test' : Test}
    (ht : test.SameFaults test') (column rule : String) (kind : FindingKind) (message : String) :
    SameOutcome SameFaults (d.addOne column test rule kind message)
      (d'.addOne column test' rule kind message) :=
  h.add ht column 1 _

end PlanDraft

namespace ColumnSpec
variable {c : ColumnSpec} {d d' : PlanDraft} {source source' : LocaleSource}

private theorem localeCheck?_sameOutcome (h : source.SameAnswers source') (c : ColumnSpec)
    (locale : Option String) (base : UInt8) :
    SameOutcome (Option.Rel LocaleCheck.SameAnswers) (c.localeCheck? locale source base)
      (c.localeCheck? locale source' base) := by
  unfold localeCheck?
  cases locale with
  | none => exact .ok .none
  | some l =>
    simp only
    split
    · exact .ok .none
    have hcheck := h c.cellType l base
    cases hk : source.check? c.cellType l base <;> cases hk' : source'.check? c.cellType l base <;>
      rw [hk, hk'] at hcheck <;> cases hcheck
    · exact .error _
    · rename_i hcheck
      simp only [hcheck.faults]
      split
      · exact .error _
      · exact .ok (.some hcheck)

private theorem addType_sameOutcome {check check' : Option LocaleCheck}
    (h : Option.Rel LocaleCheck.SameAnswers check check') (hd : d.SameFaults d') :
    SameOutcome PlanDraft.SameFaults (c.addType check d) (c.addType check' d') := by
  unfold addType
  cases h with
  | none =>
    cases PlainForm.ofType? c.cellType with
    | none => exact .ok hd
    | some form => exact hd.addOne (fun _ _ => rfl) _ _ _ _
  | @some k k' hk =>
    have hwidth : widthOf k = widthOf k' := by rw [widthOf, widthOf, hk.faults]
    simp only [hwidth, hk.faults]
    exact hd.add (Test.sameFaults_locale hk) _ _ _

private theorem addRule_sameOutcome {read read' : String → Option Binary64}
    (hread : ∀ value, value ≠ "" → read value = read' value) (hd : d.SameFaults d') (r : Rule) :
    SameOutcome PlanDraft.SameFaults (c.addRule read d r) (c.addRule read' d' r) := by
  cases r with
  | required | unique | custom => exact .ok hd
  | min | max =>
    refine .bind_same _ fun _ => hd.addOne (Test.sameFaults_of_ne_empty ?_ ?_) _ _ _ _
    · intro code
      rfl
    · intro code value hv
      simp [CodedTest.fault?, hv, hread value hv]
  | minLength | maxLength => exact hd.addOne (fun _ _ => rfl) _ _ _ _
  | pattern text =>
    simp only [addRule]
    split
    · exact hd.addOne (fun _ _ => rfl) _ _ _ _
    · exact .error _
  | oneOf values =>
    simp only [addRule]
    split
    · exact .error _
    · exact hd.addOne (fun _ _ => rfl) _ _ _ _
  | email =>
    simp only [addRule]
    split
    · exact hd.addOne (fun _ _ => rfl) _ _ _ _
    · exact .error _

end ColumnSpec

structure ColumnPlan.SameFaults (q q' : ColumnPlan) : Prop where
  rest : q' = { q with tests := q'.tests }
  fault? : ∀ value, q.fault? value = q'.fault? value

private theorem findSome?_fault?_eq {ts ts' : List CodedTest} {value : String}
    (h : List.Forall₂ (fun t t' : CodedTest => ∀ value, t.fault? value = t'.fault? value) ts ts') :
    ts.findSome? (·.fault? value) = ts'.findSome? (·.fault? value) := by
  induction h with
  | nil => rfl
  | cons ht _ ih => rw [List.findSome?_cons, List.findSome?_cons, ht value, ih]

private theorem ColumnSpec.plan_sameOutcome {source source' : LocaleSource}
    (h : source.SameAnswers source') (c : ColumnSpec) (schemaLocale : Option String) :
    SameOutcome ColumnPlan.SameFaults (c.plan schemaLocale source)
      (c.plan schemaLocale source') := by
  rw [plan_eq, plan_eq]
  refine .bind_same _ fun d => ?_
  refine (localeCheck?_sameOutcome h c _ _).bind fun check check' hcheck => ?_
  refine (addType_sameOutcome hcheck (.refl d)).bind fun d₂ d₂' hd₂ => ?_
  have hagrees : Option.Rel LocaleCheck.Agrees check check' := by
    cases hcheck with
    | none => exact .none
    | some hk => exact .some hk.agrees
  have hread : ∀ value, value ≠ "" → c.numberReader check value = c.numberReader check' value :=
    fun _ => c.numberReader_eq hagrees
  refine (SameOutcome.foldlM (fun _ _ r hd => addRule_sameOutcome hread hd r) c.rules hd₂).bind
    fun d₃ d₃' hd₃ => ?_
  split
  · exact .error _
  · exact .ok ⟨by rw [hd₃.notices], fun value => findSome?_fault?_eq hd₃.tests⟩

theorem Schema.plan_sameOutcome {source source' : LocaleSource} (h : source.SameAnswers source')
    (s : Schema) : SameOutcome (fun p p' => List.Forall₂ ColumnPlan.SameFaults p.columns p'.columns)
      (s.plan source) (s.plan source') := by
  refine .bind_same _ fun _ => ?_
  have hcolumns : List.Forall₂ (fun c d => SameOutcome ColumnPlan.SameFaults (c.plan s.locale source)
      (d.plan s.locale source')) s.columns s.columns :=
    List.forall₂_same.mpr fun c _ => c.plan_sameOutcome h s.locale
  exact (SameOutcome.mapM hcolumns).bind fun _ _ hqs => SameOutcome.ok hqs

end TableAudit
