import Mathlib.Data.List.Induction
import TableAudit.Proofs.Plan.Meaning
import TableAudit.Proofs.Schema.Content
import TableAudit.Proofs.Schema.Names

/-! The plan of a schema from the plans of its columns, and the first error of a schema that has
none. -/
namespace TableAudit

theorem forall₂_getElem? {α β : Type} {R : α → β → Prop} {as : List α} {bs : List β}
    (h : List.Forall₂ R as bs) (i : Nat) : Option.Rel R as[i]? bs[i]? := by
  induction h generalizing i with
  | nil => exact .none
  | cons hab _ ih =>
    cases i with
    | zero => exact .some hab
    | succ i => exact ih i

theorem Schema.names_of_plan {s : Schema} {source : LocaleSource} {p : AuditPlan}
    (h : s.plan source = .ok p) : p.names = s.names := by
  symm
  rw [names, AuditPlan.names, map_eq_map_iff_forall₂]
  refine (plan_eq_ok.mp h).2.imp fun c q hq => ?_
  obtain ⟨d, _, _, rfl⟩ := ColumnSpec.plan_eq_ok hq
  rfl

namespace AuditPlan
variable {p : AuditPlan} {n : String} {i : Nat} {q : ColumnPlan}

private theorem getElem?_entered {names : List String} (h : names.Nodup) :
    (names.zipIdx.foldl (fun m n => m.insert n.1 n.2) (∅ : Std.TreeMap String Nat))[n]? = some i ↔
      names[i]? = some n := by
  -- From the end, as the fold enters the last name over the others.
  induction names using List.reverseRecOn with
  | nil => simp
  | append_singleton names a ih =>
    obtain ⟨hnew, hnodup⟩ := List.nodup_cons.mp ((List.perm_append_singleton a names).nodup_iff.mp h)
    rw [List.zipIdx_append, List.foldl_append, List.zipIdx_singleton, List.foldl_cons, List.foldl_nil,
      Std.TreeMap.getElem?_insert]
    have hlast : (names ++ [a])[i]? = some n ↔ names[i]? = some n ∨ i = names.length ∧ a = n := by
      rcases Nat.lt_trichotomy i names.length with hlt | rfl | hlt
      · simp [List.getElem?_append_left hlt, Nat.ne_of_lt hlt]
      · simp
      · rw [List.getElem?_append_right (Nat.le_of_lt hlt)]
        simp [Nat.ne_of_gt hlt, Nat.le_of_lt hlt, Nat.sub_ne_zero_of_lt hlt]
    rw [hlast]
    by_cases ha : a = n
    · subst ha
      have hnot : names[i]? ≠ some a := fun hi => hnew (List.mem_of_getElem? hi)
      simp [hnot, eq_comm]
    · simp [ha, ih hnodup]

private theorem index?_eq_some_iff (h : p.names.Nodup) :
    p.index? n = some i ↔ p.names[i]? = some n :=
  getElem?_entered h

private theorem get?_eq_some_iff (h : p.names.Nodup) :
    p.get? n = some q ↔ q ∈ p.columns ∧ q.name = n := by
  rw [get?, Option.bind_eq_some_iff]
  simp only [index?_eq_some_iff h, names, List.getElem?_map, Option.map_eq_some_iff]
  constructor
  · rintro ⟨i, ⟨q', hq', hname⟩, hq⟩
    cases hq'.symm.trans hq
    exact ⟨List.mem_of_getElem? hq, hname⟩
  · rintro ⟨hmem, hname⟩
    obtain ⟨i, hi⟩ := List.mem_iff_getElem?.mp hmem
    exact ⟨i, ⟨q, hi, hname⟩, hi⟩

end AuditPlan

namespace Schema
variable {s : Schema} {source : LocaleSource} {p : AuditPlan}

/-- The error of a column that cannot be planned, at its place. -/
def ColumnDefect (s : Schema) (source : LocaleSource) (i : Nat) (e : PlanError) : Prop :=
  ∃ c, s.columns[i]? = some c ∧ c.plan s.locale source = .error e

/-- A plan with the plans of the columns of a schema in their order, each found by its name. -/
structure PlannedAs (s : Schema) (source : LocaleSource) (p : AuditPlan) : Prop where
  columns : ∀ i : Nat, p.columns[i]?.map .ok = s.columns[i]?.map (·.plan s.locale source)
  names : p.names = s.names
  index? : ∀ n i, p.index? n = some i ↔ s.names[i]? = some n
  get? : ∀ n q, p.get? n = some q ↔ q ∈ p.columns ∧ q.name = n

private theorem plannedAs_of_plan (h : s.plan source = .ok p) : s.PlannedAs source p := by
  obtain ⟨hok, hcolumns⟩ := plan_eq_ok.mp h
  have hnames := names_of_plan h
  have hnodup : p.names.Nodup := hnames ▸ ((checkNames_eq_ok_iff s).mp hok).2
  refine ⟨fun i => ?_, hnames, fun n i => ?_, fun n q => AuditPlan.get?_eq_some_iff hnodup⟩
  · have hcolumn := forall₂_getElem? hcolumns i
    generalize s.columns[i]? = c, p.columns[i]? = q at hcolumn ⊢
    cases hcolumn with
    | none => rfl
    | some hq => exact congrArg some hq.symm
  · rw [AuditPlan.index?_eq_some_iff hnodup, hnames]

/-- Planning a schema fails with the first name that is empty or comes a second time; if there is
none, with the error of the first column that cannot be planned; and if there is none of them, it
succeeds with the plans of the columns. -/
theorem plan_trichotomy (s : Schema) (source : LocaleSource) :
    (∃ e, First (NameDefect [] s.names) e ∧ s.plan source = .error (.schema e)) ∨
    (∀ i e, ¬ NameDefect [] s.names i e) ∧
      ((∃ e, First (s.ColumnDefect source) e ∧ s.plan source = .error e) ∨
        (∀ i e, ¬ s.ColumnDefect source i e) ∧
          ∃ p, s.plan source = .ok p ∧ s.PlannedAs source p) := by
  rcases checkNamesFrom_cases [] s.names with ⟨e, hfirst, he⟩ | ⟨hnames, hok⟩
  · refine .inl ⟨e, hfirst, ?_⟩
    rw [plan, checkNames, he]
    rfl
  refine .inr ⟨hnames, ?_⟩
  have hplan : s.plan source = (s.columns.mapM fun c => c.plan s.locale source) >>=
      fun columns => .ok ⟨columns⟩ := by
    rw [plan, checkNames, hok]
    rfl
  rcases mapM_cases (fun c => c.plan s.locale source) s.columns with ⟨e, hfirst, he⟩ | ⟨hall, ps, hps⟩
  · exact .inl ⟨e, hfirst, by rw [hplan, he]; rfl⟩
  · have hp : s.plan source = .ok ⟨ps⟩ := by rw [hplan, hps]; rfl
    refine .inr ⟨?_, ⟨ps⟩, hp, plannedAs_of_plan hp⟩
    rintro i e ⟨c, hc, he⟩
    obtain ⟨q, hq⟩ := hall c (List.mem_of_getElem? hc)
    cases hq.symm.trans he

end Schema
end TableAudit
