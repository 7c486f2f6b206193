import TableAudit.Plan.Column

/-! The plan of a schema: the plans of its columns in their order. -/
namespace TableAudit

structure AuditPlan where
  columns : List ColumnPlan

namespace AuditPlan

def names (p : AuditPlan) : List String := p.columns.map (·.name)

/-- The positions of the columns, entered by name one after the other; a later column takes the
place of an earlier one of the same name. -/
def index (p : AuditPlan) : Std.TreeMap String Nat :=
  p.names.zipIdx.foldl (fun m n => m.insert n.1 n.2) ∅

def index? (p : AuditPlan) (name : String) : Option Nat := p.index[name]?

def get? (p : AuditPlan) (name : String) : Option ColumnPlan := (p.index? name).bind (p.columns[·]?)

end AuditPlan

/-- Checks the names, then plans the columns one after the other; the first error counts. -/
def Schema.plan (s : Schema) (source : LocaleSource) : Except PlanError AuditPlan := do
  s.checkNames.mapError .schema
  return ⟨← s.columns.mapM fun c => c.plan s.locale source⟩

end TableAudit
