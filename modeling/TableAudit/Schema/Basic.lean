import TableAudit.Json.Token
import TableAudit.Schema.CellType
import TableAudit.Schema.Rule

/-! Schemas: named columns in order, each with a type and rules. -/
namespace TableAudit

structure ColumnSpec where
  name : String
  cellType : CellType
  rules : List Rule
  locale : Option String
  /-- Other headings of the column; an audit does not look at them. -/
  aliases : List String

def ColumnSpec.hasRule (c : ColumnSpec) (name : String) : Bool := c.rules.any fun r => r.name = name

inductive SchemaError where
  | unreadable (f : Json.Fault)
  | repeatedName (name : String)
  | emptyName

def SchemaError.message : SchemaError → String
  | unreadable _ => "invalid schema document: "
  | repeatedName name => "duplicate column name: " ++ name
  | emptyName => "column name must not be empty"

structure Schema where
  columns : List ColumnSpec
  locale : Option String

namespace Schema

def empty : Schema := ⟨[], none⟩

/-- Replaces the first column of the same name, or adds the column at the end. -/
def putColumn (c : ColumnSpec) : List ColumnSpec → List ColumnSpec
  | [] => [c]
  | d :: ds => if d.name = c.name then c :: ds else d :: putColumn c ds

def insert (s : Schema) (c : ColumnSpec) : Schema := { s with columns := putColumn c s.columns }

def get? (s : Schema) (name : String) : Option ColumnSpec := s.columns.find? fun c => c.name = name

def names (s : Schema) : List String := s.columns.map (·.name)

/-- Refuses the first name that is empty or among those before it. -/
def checkNamesFrom (seen : List String) : List String → Except SchemaError Unit
  | [] => .ok ()
  | name :: rest =>
    if name = "" then .error .emptyName
    else if name ∈ seen then .error (.repeatedName name)
    else checkNamesFrom (name :: seen) rest

def checkNames (s : Schema) : Except SchemaError Unit := checkNamesFrom [] s.names

end Schema
end TableAudit
