import Std.Data.HashSet
import TableAudit.Grid.Marks
import TableAudit.Plan.Schema
import TableAudit.Schema.Options

/-! The pass over a table: its cells are visited row by row, each with its column's plan. What is
kept of a visit is a mark, two counts and, where values must not repeat, the key of a sound value. -/
namespace TableAudit

/-- Rows of cell texts; they may be shorter or longer than the plan. -/
abbrev Table := Array (Array String)

def Table.cell (t : Table) (row col : Nat) : String := (t.getD row #[]).getD col ""

namespace ColumnPlan

/-- The finding of a value by itself. An empty value meets no custom rule. -/
def finding? (p : ColumnPlan) (value : String) : Option Finding :=
  match p.fault? value with
  | some code => some (.check code)
  | none =>
    if value.isEmpty then none
    else (p.failingCustom? value).map fun i => .custom (UInt8.ofNat i)

def noticeOf? (p : ColumnPlan) : Finding → Option Notice
  | .check code => p.notice? code
  | .custom i => p.customRules[i.toNat]?.map fun c => ⟨"custom", .custom, c.message⟩
  | .repeated => some ⟨"unique", .unique, "Duplicate value"⟩

def ruleOf (p : ColumnPlan) (f : Finding) : String :=
  match p.noticeOf? f with
  | some n => n.rule
  | none => "unknown"

end ColumnPlan

structure Tally where
  byRule : Std.TreeMap String Nat
  byColumn : Std.TreeMap String Nat

namespace Tally

def empty : Tally := ⟨∅, ∅⟩

def bump (counts : Std.TreeMap String Nat) (name : String) : Std.TreeMap String Nat :=
  counts.alter name fun n => some (n.getD 0 + 1)

def add (t : Tally) (rule column : String) : Tally :=
  ⟨bump t.byRule rule, bump t.byColumn column⟩

end Tally

structure Visit where
  row : Nat
  col : Nat
  column : ColumnPlan
  value : String

def AuditPlan.visits (p : AuditPlan) (o : Options) (t : Table) : List Visit :=
  t.toList.zipIdx.flatMap fun (cells, row) =>
    p.columns.zipIdx.map fun (column, col) => ⟨row, col, column, o.valueOf (cells.getD col "")⟩

structure Progress where
  marks : Marks
  tally : Tally
  seen : Std.HashSet (Nat × String)

namespace Progress

def start (rows cols : Nat) : Progress := ⟨.clear rows cols, .empty, ∅⟩

def note (s : Progress) (v : Visit) (f : Finding) : Progress :=
  { s with
    marks := s.marks.mark v.row v.col f
    tally := s.tally.add (v.column.ruleOf f) v.column.name }

/-- Visits a cell. A value that is sound by itself is a finding if its key was met before, and its
key is remembered otherwise. -/
def visit (m : Matching) (s : Progress) (v : Visit) : Progress :=
  match v.column.finding? v.value with
  | some f => s.note v f
  | none =>
    if v.value.isEmpty || !v.column.isUnique then s
    else
      let key := (v.col, m.key v.value)
      if s.seen.contains key then s.note v .repeated
      else { s with seen := s.seen.insert key }

end Progress

structure Audit where
  plan : AuditPlan
  table : Table
  marks : Marks
  tally : Tally

/-- Audits a table; nothing is remembered from one table to the next. -/
def AuditPlan.audit (p : AuditPlan) (o : Options) (t : Table) : Audit :=
  let s := (p.visits o t).foldl (Progress.visit o.matching) (.start t.size p.columns.length)
  ⟨p, t, s.marks, s.tally⟩

end TableAudit
