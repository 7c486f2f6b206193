import TableAudit.Audit.Kind
import TableAudit.Json.Reader

/-! Findings as they are handed out, with all that is needed to show them. -/
namespace TableAudit

structure FindingRecord where
  row : Nat
  col : Nat
  field : String
  /-- The text of the cell as it stands in the table. -/
  value : String
  kind : FindingKind
  rule : String
  message : String
deriving DecidableEq

def FindingRecord.toJson (r : FindingRecord) : Json :=
  .object [("row", .nat r.row), ("col", .nat r.col), ("field", .string r.field),
    ("value", .string r.value), ("code", .string r.kind.code), ("rule", .string r.rule),
    ("message", .string r.message)]

namespace Json

structure RecordDraft where
  row : Option UInt64
  col : Option UInt64
  field : Option String
  value : Option String
  kind : Option FindingKind
  rule : Option String
  message : Option String

def RecordDraft.take (name : String) (x : Node) (d : RecordDraft) : Except Fault RecordDraft :=
  match name with
  | "row" => do return { d with row := ← once d.row x.toCount }
  | "col" => do return { d with col := ← once d.col x.toCount }
  | "field" => do return { d with field := ← once d.field x.toText }
  | "value" => do return { d with value := ← once d.value x.toText }
  | "code" => do return { d with kind := ← once d.kind (x.toChoice FindingKind.ofCode?) }
  | "rule" => do return { d with rule := ← once d.rule x.toText }
  | _ => do return { d with message := ← once d.message x.toText }

def Node.toRecord (x : Node) : Except Fault FindingRecord := do
  let d ← x.toFields ["row", "col", "field", "value", "code", "rule", "message"] RecordDraft.take
    ⟨none, none, none, none, none, none, none⟩
  return ⟨(← needed d.row).toNat, (← needed d.col).toNat, ← needed d.field, ← needed d.value,
    ← needed d.kind, ← needed d.rule, ← needed d.message⟩

end Json
end TableAudit
