import TableAudit.Audit.Pass
import TableAudit.Audit.Record

/-! What can be asked of an audit. Records are made from the marks when they are asked for. -/
namespace TableAudit

structure Footprint where
  bits : Nat
  codes : Nat

def Footprint.total (f : Footprint) : Nat := f.bits + f.codes

structure Report where
  records : List FindingRecord
  rows : Nat
  faultyRows : Nat
  tally : Tally

namespace Audit

def rows (a : Audit) : Nat := a.marks.bits.rows

def cols (a : Audit) : Nat := a.marks.bits.cols

def count (a : Audit) : Nat := a.marks.bits.count

def isValid (a : Audit) : Bool := a.count = 0

def faultyRows (a : Audit) : Nat := a.marks.bits.countRows

/-- The byte of a cell; zero without a finding or outside the table. -/
def code (a : Audit) (row col : Nat) : UInt8 := a.marks.codes.get row col

def record? (a : Audit) (row col : Nat) : Option FindingRecord := do
  let finding ← a.marks.finding? row col
  let column ← a.plan.columns[col]?
  let notice ← column.noticeOf? finding
  return ⟨row, col, column.name, a.table.cell row col, notice.kind, notice.rule, notice.message⟩

/-- The findings in row order from the one at `offset` on, and of these at most `limit`. -/
def page (a : Audit) (offset : Nat) (limit : Option Nat) : List FindingRecord :=
  let rest := a.marks.bits.positions.drop offset
  let taken := match limit with
    | some n => rest.take n
    | none => rest
  taken.filterMap fun i => a.record? (i / a.cols) (i % a.cols)

def records (a : Audit) : List FindingRecord := a.page 0 none

def rowRecords (a : Audit) (row : Nat) : List FindingRecord :=
  (a.marks.bits.colsOf row).filterMap fun col => a.record? row col

def footprint (a : Audit) : Footprint := ⟨a.marks.bits.byteSize, a.marks.codes.byteSize⟩

def report (a : Audit) : Report := ⟨a.records, a.rows, a.faultyRows, a.tally⟩

end Audit

namespace Report

def isValid (r : Report) : Bool := r.records.isEmpty

def soundRows (r : Report) : Nat := r.rows - r.faultyRows

end Report
end TableAudit
