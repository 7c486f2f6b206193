import TableAudit.Json.Reader
import TableAudit.Text.Blank
import TableAudit.Text.Lower

/-! How the cells of a table are compared. -/
namespace TableAudit

inductive Matching where
  | exact
  | caseInsensitive
deriving DecidableEq

namespace Matching

def name : Matching → String
  | exact => "Exact"
  | caseInsensitive => "CaseInsensitive"

def ofName? (s : String) : Option Matching := [exact, caseInsensitive].find? fun m => m.name = s

def key : Matching → String → String
  | exact, s => s
  | caseInsensitive, s => Text.lowered s

end Matching

structure Options where
  trimCells : Bool
  matching : Matching
deriving DecidableEq

namespace Options

def standard : Options := ⟨false, .exact⟩

def valueOf (o : Options) (text : String) : String := if o.trimCells then Text.trimmed text else text

def toJson (o : Options) : Json :=
  .object [("trim_values", .bool o.trimCells), ("unique_matching", .string o.matching.name)]

end Options

namespace Json

structure OptionsDraft where
  trimCells : Option Bool
  matching : Option Matching

def OptionsDraft.take (name : String) (x : Node) (d : OptionsDraft) : Except Fault OptionsDraft :=
  match name with
  | "trim_values" => do return { d with trimCells := ← once d.trimCells x.toBool }
  | _ => do return { d with matching := ← once d.matching (x.toChoice Matching.ofName?) }

def Node.toOptions (x : Node) : Except Fault Options := do
  let d ← x.toFields ["trim_values", "unique_matching"] OptionsDraft.take ⟨none, none⟩
  return ⟨← needed d.trimCells, ← needed d.matching⟩

end Json
end TableAudit
