import Mathlib.Algebra.BigOperators.Group.Finset.Piecewise
import Mathlib.Algebra.BigOperators.Group.Finset.Sigma
import TableAudit.Proofs.Audit.Chunks
import TableAudit.Proofs.Plan.Schemas

/-! An audit finds in a column what an audit of that column alone finds; its counts are those of its
columns together. -/
namespace TableAudit

def Options.columnOf (o : Options) (t : Table) (col row : Nat) : String :=
  o.valueOf (t.cell row col)

namespace ColumnPlan

def Repeats (c : ColumnPlan) (m : Matching) (values : Nat → String) (row : Nat) : Prop :=
  c.isUnique = true ∧ c.Accepts (values row) ∧
    ∃ above < row, c.Accepts (values above) ∧ m.key (values above) = m.key (values row)

instance (c : ColumnPlan) (m : Matching) (values : Nat → String) (row : Nat) :
    Decidable (c.Repeats m values row) :=
  inferInstanceAs (Decidable (_ ∧ _ ∧ ∃ above < row, _))

def findingIn? (c : ColumnPlan) (m : Matching) (values : Nat → String) (row : Nat) :
    Option Finding :=
  if c.Repeats m values row then some .repeated else c.finding? (values row)

variable {c : ColumnPlan} {m : Matching} {values : Nat → String} {row : Nat}

theorem findingIn?_eq_none_iff : c.findingIn? m values row = none ↔
    ¬ c.Repeats m values row ∧ c.finding? (values row) = none := by
  unfold findingIn?
  split <;> simp_all

private theorem Sound.hasFinding_of_findingIn? (hc : c.Sound) {f : Finding}
    (h : c.findingIn? m values row = some f) : c.HasFinding f := by
  unfold findingIn? at h
  split at h
  · rename_i hr
    cases h
    exact hr.1
  · exact hc.hasFinding_of_finding? h

end ColumnPlan

namespace AuditPlan
variable {p : AuditPlan} {o : Options} {t : Table}

private theorem Sound.finding?_eq (hs : p.Sound) {v : Visit} {before after : List Visit}
    (h : p.visits o t = before ++ v :: after) :
    v.finding? o.matching before =
      v.column.findingIn? o.matching (o.columnOf t v.col) v.row := by
  have hv : v ∈ p.visits o t := h ▸ List.mem_append_right before List.mem_cons_self
  obtain ⟨_, hcol, hvalue⟩ := mem_visits.mp hv
  have hc : v.column.Sound := hs _ (List.mem_of_getElem? hcol)
  have hrepeats : v.IsCompared ∧ (∃ w ∈ before, w.IsCompared ∧ w.key o.matching = v.key o.matching) ↔
      v.column.Repeats o.matching (o.columnOf t v.col) v.row := by
    rw [exists_compared_before_iff hs h, ColumnPlan.Repeats, Visit.IsCompared, Options.columnOf,
      ← hvalue, hc.accepts_iff]
    constructor
    · rintro ⟨⟨hu, haccepts⟩, _, habove⟩
      exact ⟨hu, haccepts, habove⟩
    · rintro ⟨hu, haccepts, habove⟩
      exact ⟨⟨hu, haccepts⟩, hu, habove⟩
  rw [ColumnPlan.findingIn?, ← if_congr hrepeats rfl rfl]
  split
  · rename_i hr
    exact Visit.finding?_of_repeats hr.1 hr.2
  · rename_i hr
    rw [show o.columnOf t v.col v.row = v.value from hvalue.symm]
    cases hf : v.column.finding? v.value with
    | some f => exact Visit.finding?_of_column hf
    | none => exact Visit.finding?_of_not_repeats hf hr

/-- The finding of a cell as its column tells it. -/
def findingAt? (p : AuditPlan) (o : Options) (t : Table) (row col : Nat) : Option Finding :=
  if row < t.size then
    p.columns[col]?.bind fun c => c.findingIn? o.matching (o.columnOf t col) row
  else none

private theorem Sound.hasFinding_of_findingAt? (hs : p.Sound) {row col : Nat} {f : Finding}
    (h : p.findingAt? o t row col = some f) : ∃ c, p.columns[col]? = some c ∧ c.HasFinding f := by
  unfold findingAt? at h
  split at h
  · obtain ⟨c, hc, hf⟩ := Option.bind_eq_some_iff.mp h
    exact ⟨c, hc, (hs c (List.mem_of_getElem? hc)).hasFinding_of_findingIn? hf⟩
  · cases h

/-- The byte of a cell is that of its finding. -/
theorem Sound.code_eq (hs : p.Sound) (o : Options) (t : Table) (row col : Nat) :
    (p.audit o t).code row col = ((p.findingAt? o t row col).map Finding.toByte).getD 0 := by
  by_cases hin : row < t.size ∧ col < p.columns.length
  · have hcol := List.getElem?_eq_getElem hin.2
    obtain ⟨before, after, hsplit⟩ := exists_visits_eq (o := o) hin.1 hcol
    have hcode := hs.code_of_visits_eq hsplit
    rw [hs.finding?_eq hsplit] at hcode
    rw [findingAt?, if_pos hin.1, hcol, Option.bind_some]
    exact hcode
  · rw [hs.code_outside hin, findingAt?]
    split
    · rename_i hrow
      rw [List.getElem?_eq_none (Nat.le_of_not_lt fun hcol => hin ⟨hrow, hcol⟩)]
      rfl
    · rfl

theorem Sound.code_eq_zero_iff_findingAt? (hs : p.Sound) {row col : Nat} :
    (p.audit o t).code row col = 0 ↔ p.findingAt? o t row col = none := by
  rw [hs.code_eq]
  cases hf : p.findingAt? o t row col with
  | none => simp
  | some f =>
    obtain ⟨_, _, hfinding⟩ := hs.hasFinding_of_findingAt? hf
    simpa using hfinding.toByte_ne_zero

end AuditPlan

private theorem trace_eq_filterMap {m : Matching} {g : Visit → Option Finding}
    {earlier vs : List Visit}
    (h : ∀ before v after, vs = before ++ v :: after → v.finding? m (earlier ++ before) = g v) :
    trace m earlier vs = vs.filterMap fun v => (g v).map (v, ·) := by
  induction vs generalizing earlier with
  | nil => rfl
  | cons v vs ih =>
    have hv := h [] v vs rfl
    have hrest : trace m (earlier ++ [v]) vs = vs.filterMap fun w => (g w).map (w, ·) := by
      apply ih
      intro before w after hw
      rw [List.append_assoc]
      exact h (v :: before) w after (by rw [hw]; rfl)
    rw [List.append_nil] at hv
    rw [trace, hv, hrest, List.filterMap_cons]
    cases g v <;> rfl

private theorem AuditPlan.Sound.trace_eq {p : AuditPlan} (hs : p.Sound) (o : Options) (t : Table) :
    trace o.matching [] (p.visits o t) = (p.visits o t).filterMap fun v =>
      (v.column.findingIn? o.matching (o.columnOf t v.col) v.row).map (v, ·) :=
  trace_eq_filterMap fun _ _ _ hsplit => hs.finding?_eq hsplit

def Schema.only (s : Schema) (col : Nat) : Schema := { s with columns := s.columns[col]?.toList }

def AuditPlan.only (p : AuditPlan) (col : Nat) : AuditPlan := ⟨p.columns[col]?.toList⟩

/-- The table with the cells of this column and no others; a missing cell is empty. -/
def Table.only (t : Table) (col : Nat) : Table := t.map fun cells => #[cells.getD col ""]

private theorem Table.cell_only (t : Table) (row col : Nat) :
    (t.only col).cell row 0 = t.cell row col := by
  simp only [Table.cell, Table.only, Array.getD_eq_getD_getElem?, Array.getElem?_map]
  cases t[row]? <;> simp

private theorem Options.columnOf_only (o : Options) (t : Table) (col : Nat) :
    o.columnOf (t.only col) 0 = o.columnOf t col := by
  funext row
  rw [columnOf, Table.cell_only]
  rfl

private theorem Schema.plan_only {s : Schema} {source : LocaleSource} {p : AuditPlan}
    (h : s.plan source = .ok p) (col : Nat) : (s.only col).plan source = .ok (p.only col) := by
  obtain ⟨hnames, hcolumns⟩ := plan_eq_ok.mp h
  have hcolumn : List.Forall₂ (fun c q => c.plan s.locale source = .ok q) (s.only col).columns
      (p.only col).columns := by
    change List.Forall₂ _ s.columns[col]?.toList p.columns[col]?.toList
    have hcol := forall₂_getElem? hcolumns col
    generalize s.columns[col]? = c, p.columns[col]? = q at hcol ⊢
    cases hcol with
    | none => exact .nil
    | some hq => exact .cons hq .nil
  refine plan_eq_ok.mpr ⟨?_, hcolumn⟩
  have hsub : (s.only col).names.Sublist s.names := by
    refine List.Sublist.map _ ?_
    rw [Schema.only]
    cases hc : s.columns[col]? with
    | none => exact List.nil_sublist _
    | some c => exact List.singleton_sublist.mpr (List.mem_of_getElem? hc)
  rw [checkNames_eq_ok_iff] at hnames ⊢
  exact ⟨fun hmem => hnames.1 (hsub.subset hmem), hnames.2.sublist hsub⟩

namespace AuditPlan
variable {p : AuditPlan} {o : Options} {t : Table} {col : Nat}

private theorem Sound.only (hs : p.Sound) (col : Nat) : (p.only col).Sound := fun c hc =>
  hs c (List.mem_of_getElem? (Option.mem_toList.mp hc))

private theorem findingAt?_only (p : AuditPlan) (o : Options) (t : Table) (row col : Nat) :
    (p.only col).findingAt? o (t.only col) row 0 = p.findingAt? o t row col := by
  have hcolumn : (p.only col).columns[0]? = p.columns[col]? := by
    rw [AuditPlan.only]
    cases p.columns[col]? <;> rfl
  rw [findingAt?, findingAt?, hcolumn, o.columnOf_only, Table.only, Array.size_map]

private theorem Sound.code_only (hs : p.Sound) (o : Options) (t : Table) (row col : Nat) :
    ((p.only col).audit o (t.only col)).code row 0 = (p.audit o t).code row col := by
  rw [(hs.only col).code_eq, hs.code_eq, findingAt?_only]

end AuditPlan

private theorem filter_zipIdx {α : Type} (l : List α) (n i : Nat) :
    (l.zipIdx n).filter (fun x => x.2 = n + i) = l[i]?.toList.map (·, n + i) := by
  induction l generalizing n i with
  | nil => rfl
  | cons a l ih =>
    rw [List.zipIdx_cons, List.filter_cons]
    cases i with
    | zero =>
      have hlater : (l.zipIdx (n + 1)).filter (fun x => x.2 = n + 0) = [] := by
        refine List.filter_eq_nil_iff.mpr fun x hx => ?_
        have hle := List.le_snd_of_mem_zipIdx hx
        rw [decide_eq_true_iff]
        omega
      rw [if_pos (by simp), hlater]
      rfl
    | succ i =>
      have hrest := ih (n + 1) i
      rw [Nat.add_right_comm, Nat.add_assoc] at hrest
      simp [hrest]

namespace AuditPlan
variable {p : AuditPlan} {o : Options} {t : Table} {col : Nat}

private theorem filter_visits (p : AuditPlan) (o : Options) (t : Table) (col : Nat) :
    (p.visits o t).filter (fun v => v.col = col) =
      ((p.only col).visits o (t.only col)).map fun v => { v with col } := by
  have hcols := filter_zipIdx p.columns 0 col
  rw [Nat.zero_add] at hcols
  rw [visits, visits, Table.only, Array.toList_map, List.zipIdx_map, List.filter_flatMap,
    List.flatMap_map, List.map_flatMap]
  congr 1
  funext x
  obtain ⟨cells, row⟩ := x
  rw [List.filter_map, Function.comp_def, hcols, AuditPlan.only]
  cases p.columns[col]? <;> rfl

private theorem Sound.labels_only (hs : p.Sound) (o : Options) (t : Table) (col : Nat) :
    ((trace o.matching [] (p.visits o t)).filter fun x => x.1.col = col).map label =
      (trace o.matching [] ((p.only col).visits o (t.only col))).map label := by
  let found (v : Visit) : Option (String × String) :=
    (v.column.findingIn? o.matching (o.columnOf t col) v.row).map fun f => label (v, f)
  have hcolumn : ∀ v ∈ (p.only col).visits o (t.only col), v.col = 0 := fun v hv => by
    have hlt := (List.getElem?_eq_some_iff.mp (mem_visits.mp hv).2.1).1
    have hle : (p.only col).columns.length ≤ 1 := Option.length_toList_le
    omega
  calc _ = ((p.visits o t).filter fun v => v.col = col).filterMap found := by
        rw [hs.trace_eq, List.filter_filterMap, List.map_filterMap, List.filterMap_filter]
        refine List.filterMap_congr fun v _ => ?_
        by_cases hv : v.col = col
        · rw [if_pos (decide_eq_true hv), hv]
          cases hf : v.column.findingIn? o.matching (o.columnOf t col) v.row <;>
            simp [found, hf, hv, Option.filter_some]
        · rw [if_neg (by simpa using hv)]
          cases v.column.findingIn? o.matching (o.columnOf t v.col) v.row <;>
            simp [hv, Option.filter_some]
    _ = ((p.only col).visits o (t.only col)).filterMap found := by
        rw [filter_visits, List.filterMap_map]
        rfl
    _ = _ := by
        rw [(hs.only col).trace_eq, List.map_filterMap]
        refine List.filterMap_congr fun v hv => ?_
        rw [hcolumn v hv, o.columnOf_only, Option.map_map]
        rfl

end AuditPlan

private theorem count_map_eq_sum {α : Type} {l : List α} {part : α → Nat} {n : Nat}
    (h : ∀ x ∈ l, part x < n) (name : α → String) (a : String) :
    (l.map name).count a =
      ∑ i ∈ Finset.range n, ((l.filter fun x => part x = i).map name).count a := by
  induction l with
  | nil => simp
  | cons x l ih =>
    rw [List.forall_mem_cons] at h
    have hparts : ∀ i, (((x :: l).filter fun x => part x = i).map name).count a =
        (if part x = i then [name x].count a else 0) +
          ((l.filter fun x => part x = i).map name).count a := by
      intro i
      rw [List.filter_cons]
      by_cases hi : part x = i
      · simp [hi, List.count_cons]
        omega
      · simp [hi]
    rw [Finset.sum_congr rfl fun i _ => hparts i, Finset.sum_add_distrib, ← ih h.2,
      Finset.sum_ite_eq, if_pos (Finset.mem_range.mpr h.1), List.map_cons, ← List.singleton_append,
      List.count_append]

namespace AuditPlan
variable {p : AuditPlan}

private theorem Sound.count_rules (hs : p.Sound) (o : Options) (t : Table) (rule : String) :
    ((trace o.matching [] (p.visits o t)).map fun x => x.1.column.ruleOf x.2).count rule =
      ∑ col ∈ Finset.range p.columns.length,
        ((p.only col).audit o (t.only col)).tally.byRule[rule]?.getD 0 := by
  have hcol : ∀ x ∈ trace o.matching [] (p.visits o t), x.1.col < p.columns.length := by
    intro x hx
    exact (List.getElem?_eq_some_iff.mp (column_of_mem_trace hx)).1
  rw [count_map_eq_sum hcol]
  refine Finset.sum_congr rfl fun col _ => ?_
  have hrules := congrArg (List.map Prod.fst) (hs.labels_only o t col)
  rw [List.map_map, List.map_map] at hrules
  rw [((p.only col).counts_audit o (t.only col)).1.getD]
  exact congrArg (List.count rule) hrules

private theorem Sound.count_columns (hs : p.Sound) (hnames : p.names.Nodup) (o : Options)
    (t : Table) {col : Nat} {name : String} (hcol : p.names[col]? = some name) :
    ((trace o.matching [] (p.visits o t)).map fun x => x.1.column.name).count name =
      ((p.only col).audit o (t.only col)).count := by
  have hname : ∀ x ∈ trace o.matching [] (p.visits o t),
      x.1.column.name = name ↔ x.1.col = col := by
    intro x hx
    have hx' : p.names[x.1.col]? = some x.1.column.name := by
      rw [names, List.getElem?_map, column_of_mem_trace hx]
      rfl
    constructor
    · rintro rfl
      exact (List.getElem?_inj (List.getElem?_eq_some_iff.mp hx').1 hnames).mp (hx'.trans hcol.symm)
    · intro heq
      exact Option.some.inj (hx'.symm.trans (heq ▸ hcol))
  rw [← (hs.only col).length_trace, List.count_eq_countP, List.countP_map,
    List.countP_congr (q := fun x => x.1.col = col) fun x hx => by simpa using hname x hx,
    List.countP_eq_length_filter, ← List.length_map label, hs.labels_only, List.length_map]

end AuditPlan

/-- The columns of an audit by themselves. A column that can be planned with others can be planned
alone, with the same bytes in its cells. The findings of a rule are those of all columns together,
and the findings in a column are those of the column alone. -/
theorem Schema.audit_of_columns {s : Schema} {source : LocaleSource} {p : AuditPlan}
    (h : s.plan source = .ok p) (o : Options) (t : Table) :
    (∀ col, (s.only col).plan source = .ok (p.only col)) ∧
    (∀ row col, (p.audit o t).code row col = ((p.only col).audit o (t.only col)).code row 0) ∧
    (∀ (rule : String) n, (p.audit o t).tally.byRule[rule]? = some n ↔ n ≠ 0 ∧
      ∑ col ∈ Finset.range p.columns.length,
        ((p.only col).audit o (t.only col)).tally.byRule[rule]?.getD 0 = n) ∧
    ∀ (name : String) n, (p.audit o t).tally.byColumn[name]? = some n ↔ n ≠ 0 ∧
      ∃ col, s.names[col]? = some name ∧ ((p.only col).audit o (t.only col)).count = n := by
  have hs := plan_sound h
  have hnames := names_of_plan h
  have hnodup : p.names.Nodup := hnames ▸ (checkNames_eq_ok_iff s).mp (plan_eq_ok.mp h).1 |>.2
  obtain ⟨hrules, hcolumns⟩ := p.counts_audit o t
  refine ⟨plan_only h, fun row col => (hs.code_only o t row col).symm, fun rule n => ?rules,
    fun name n => ?columns⟩
  case rules => rw [hrules rule n, hs.count_rules]
  case columns =>
    rw [hcolumns name n, ← hnames]
    refine and_congr_right fun hne => ⟨fun hcount => ?_, ?_⟩
    · have hmem : name ∈ p.names := by
        rw [← hcount, ← Nat.pos_iff_ne_zero, List.count_pos_iff, List.mem_map] at hne
        obtain ⟨x, hx, rfl⟩ := hne
        exact List.mem_map_of_mem (List.mem_of_getElem? (AuditPlan.column_of_mem_trace hx))
      obtain ⟨col, hcol⟩ := List.mem_iff_getElem?.mp hmem
      exact ⟨col, hcol, (hs.count_columns hnodup o t hcol).symm.trans hcount⟩
    · rintro ⟨col, hcol, hcount⟩
      exact (hs.count_columns hnodup o t hcol).trans hcount

private def staff : Schema :=
  ⟨[⟨"id", .string, [.unique], none, []⟩, ⟨"name", .string, [.required], none, []⟩], none⟩

private def staffTable : Table := #[#["7", "Ann"], #["7"]]

/-- The missing name in the second row is found as in a table of names. -/
theorem Schema.audit_of_columns_staff : ∃ p, staff.plan ⟨fun _ _ _ => none⟩ = .ok p ∧
    (p.audit .standard staffTable).code 1 1 = 1 ∧
    (p.audit .standard staffTable).tally.byColumn["name"]? = some 1 := by
  have htable : staffTable.only 1 = #[#["Ann"], #[""]] := by simp [Table.only, staffTable]
  obtain ⟨p, hp, hcode, hcount⟩ : ∃ p, staff.plan ⟨fun _ _ _ => none⟩ = .ok p ∧
      ((p.only 1).audit .standard #[#["Ann"], #[""]]).code 1 0 = 1 ∧
      ((p.only 1).audit .standard #[#["Ann"], #[""]]).count = 1 := ⟨_, rfl, rfl, rfl⟩
  rw [← htable] at hcode hcount
  obtain ⟨_, hcodes, _, hcolumns⟩ := Schema.audit_of_columns hp .standard staffTable
  exact ⟨p, hp, (hcodes 1 1).trans hcode, (hcolumns "name" 1).mpr ⟨by decide, 1, rfl, hcount⟩⟩

end TableAudit
