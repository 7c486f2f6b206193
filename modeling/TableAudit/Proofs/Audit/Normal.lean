import TableAudit.Audit.Views
import TableAudit.Proofs.Audit.Pass

/-! Ragged rows and blanks around values make no difference to an audit but for the texts that its
records show. -/
namespace TableAudit

namespace AuditPlan
variable {p : AuditPlan} {o o' : Options} {t t' : Table}

private theorem visits_congr (hsize : t.size = t'.size)
    (h : ∀ row, ∀ col < p.columns.length, o.valueOf (t.cell row col) = o'.valueOf (t'.cell row col)) :
    p.visits o t = p.visits o' t' := by
  rw [visits_eq, visits_eq, hsize]
  apply List.flatMap_congr
  intro row _
  apply List.map_congr_left
  rintro ⟨column, col⟩ hcol
  have hlt : col < p.columns.length := by
    have := List.snd_lt_of_mem_zipIdx hcol
    omega
  exact congrArg (Visit.mk row col column) (h row col hlt)

private theorem audit_congr (hmatching : o.matching = o'.matching) (hsize : t.size = t'.size)
    (h : ∀ row, ∀ col < p.columns.length, o.valueOf (t.cell row col) = o'.valueOf (t'.cell row col)) :
    p.audit o t = { p.audit o' t' with table := t } := by
  rw [audit, audit, visits_congr hsize h, hmatching, hsize]

end AuditPlan

def FindingRecord.withTextOf (t : Table) (r : FindingRecord) : FindingRecord :=
  { r with value := (t.getD r.row #[]).getD r.col "" }

namespace Audit

private theorem record?_of_table (a : Audit) (t : Table) (row col : Nat) :
    Audit.record? { a with table := t } row col =
      (a.record? row col).map (FindingRecord.withTextOf t) := by
  simp only [record?, Option.bind_eq_bind, Option.map_bind, Function.comp_def]
  rfl

private theorem page_of_table (a : Audit) (t : Table) (offset : Nat) (limit : Option Nat) :
    Audit.page { a with table := t } offset limit =
      (a.page offset limit).map (FindingRecord.withTextOf t) := by
  simp only [page, List.map_filterMap, record?_of_table]
  rfl

private theorem records_of_table (a : Audit) (t : Table) :
    Audit.records { a with table := t } = a.records.map (FindingRecord.withTextOf t) :=
  a.page_of_table t 0 none

end Audit

/-- The values of a table: in every row one for each column, the empty one for a missing cell, and no
others. -/
def Options.normalized (o : Options) (cols : Nat) (t : Table) : Table :=
  t.map fun cells => (Array.range cols).map fun col =>
    if o.trimCells then Text.trimmed (cells.getD col "") else cells.getD col ""

namespace Options
variable {o : Options} {cols row col : Nat} {t : Table}

private theorem size_normalized (o : Options) (cols : Nat) (t : Table) :
    (o.normalized cols t).size = t.size := Array.size_map

private theorem size_row_normalized {cells : Array String} (h : cells ∈ o.normalized cols t) :
    cells.size = cols := by
  obtain ⟨_, _, rfl⟩ := Array.mem_map.mp h
  rw [Array.size_map, Array.size_range]

private theorem cell_normalized (row : Nat) (hcol : col < cols) :
    (o.normalized cols t).cell row col =
    if o.trimCells then Text.trimmed (t.cell row col) else t.cell row col := by
  have hempty : Text.trimmed "" = "" := rfl
  simp only [Table.cell, normalized, Array.getD_eq_getD_getElem?, Array.getElem?_map]
  cases t[row]? with
  | none => simp [hempty]
  | some cells => simp [hcol]

end Options

/-- The values of a table are all that an audit takes from it. A table and the table of its values,
from which no blanks are dropped any more, have the same marks, counts and records, except that a
record shows the text of its cell as it stands in its table. -/
theorem AuditPlan.audit_normalized (p : AuditPlan) (o : Options) (t : Table) :
    let n := o.normalized p.columns.length t
    let a := p.audit o t
    let b := p.audit ⟨false, o.matching⟩ n
    (n.size = t.size ∧ (∀ cells ∈ n, cells.size = p.columns.length) ∧
      ∀ row, ∀ col < p.columns.length, let text := (t.getD row #[]).getD col ""
        (n.getD row #[]).getD col "" = if o.trimCells then Text.trimmed text else text) ∧
    a.marks.bits = b.marks.bits ∧ a.marks.codes = b.marks.codes ∧ a.tally = b.tally ∧
    a.count = b.count ∧ a.faultyRows = b.faultyRows ∧
    a.records = b.records.map (FindingRecord.withTextOf t) ∧
    (∀ offset limit, a.page offset limit = (b.page offset limit).map (FindingRecord.withTextOf t)) ∧
    a.report = { b.report with records := a.records } := by
  intro n a b
  have hsize : n.size = t.size := Options.size_normalized _ _ _
  have hcell : ∀ row, ∀ col < p.columns.length, n.cell row col =
      if o.trimCells then Text.trimmed (t.cell row col) else t.cell row col :=
    fun row col hcol => Options.cell_normalized row hcol
  have haudit : a = { b with table := t } :=
    audit_congr rfl hsize.symm fun row col hcol => (hcell row col hcol).symm
  refine ⟨⟨hsize, fun cells hcells => Options.size_row_normalized hcells, hcell⟩, ?_⟩
  rw [haudit]
  exact ⟨rfl, rfl, rfl, rfl, rfl, b.records_of_table t, b.page_of_table t, rfl⟩

end TableAudit
