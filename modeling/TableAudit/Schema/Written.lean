import TableAudit.Json.Reader
import TableAudit.Schema.Basic

/-! The JSON form of schemas. A rule is an object whose member `rule` names it; custom rules have no
written form. -/
namespace TableAudit

def Rule.toJson? (r : Rule) : Option Json :=
  let tagged (members : List (String × Json)) : Option Json :=
    some (.object (("rule", .string r.name) :: members))
  match r with
  | .required | .email | .unique => tagged []
  | .min bound | .max bound => tagged [("value", .float bound)]
  | .minLength n | .maxLength n => tagged [("value", .nat n.toNat)]
  | .pattern text => tagged [("value", .string text)]
  | .oneOf values => tagged [("values", Json.strings values)]
  | .custom _ => none

def optionalMember (name : String) (value : Option Json) : List (String × Json) :=
  (value.map fun x => (name, x)).toList

def ColumnSpec.toJson? (c : ColumnSpec) : Option Json := do
  let rules ← c.rules.mapM Rule.toJson?
  return .object ([("name", .string c.name), ("type", .string c.cellType.name),
    ("rules", .array rules)] ++ optionalMember "locale" (c.locale.map .string) ++
    optionalMember "aliases" (if c.aliases.isEmpty then none else some (Json.strings c.aliases)))

def Schema.toJson? (s : Schema) : Option Json := do
  let columns ← s.columns.mapM ColumnSpec.toJson?
  return .object (("columns", .array columns) :: optionalMember "locale" (s.locale.map .string))

def Schema.toText (s : Schema) : Except SchemaError String :=
  match s.toJson? with
  | some j => .ok j.pretty
  | none => .error (.unreadable .wrongShape)

inductive WrittenFields where
  | byName (fields : List (String × Json))
  | byPosition (fields : List Json)

/-- Fields are named in written rules by at most one word. -/
def WrittenFields.only? (name : String) : WrittenFields → Option Json
  | .byName fields =>
    match fields.filter fun f => f.1 = name with
    | [f] => some f.2
    | _ => none
  | .byPosition [x] => some x
  | .byPosition _ => none

/-- A rule without fields; members are passed over, items are not. -/
def WrittenFields.nothing? : WrittenFields → Option Unit
  | .byName _ => some ()
  | .byPosition [] => some ()
  | .byPosition _ => none

def Json.asNumber? : Json → Option Binary64
  | .number n => some n.toBinary64
  | _ => none

def Json.asCount? : Json → Option UInt64
  | .number (.whole n) => if 0 ≤ n then some (UInt64.ofNat n.toNat) else none
  | _ => none

def Json.asString? : Json → Option String
  | .string s => some s
  | _ => none

def Json.asStrings? : Json → Option (List String)
  | .array xs => xs.mapM Json.asString?
  | _ => none

inductive WrittenRule where
  | plain (r : Rule)
  | bound (make : Binary64 → Rule)
  | length (make : UInt64 → Rule)
  | text
  | choices

def WrittenRule.ofName? : String → Option WrittenRule
  | "required" => some (.plain .required)
  | "min" => some (.bound .min)
  | "max" => some (.bound .max)
  | "minLength" => some (.length .minLength)
  | "maxLength" => some (.length .maxLength)
  | "pattern" => some .text
  | "enum" => some .choices
  | "email" => some (.plain .email)
  | "unique" => some (.plain .unique)
  | _ => none

def WrittenRule.complete? (fields : WrittenFields) : WrittenRule → Option Rule
  | .plain r => fields.nothing?.map fun _ => r
  | .bound make => ((fields.only? "value").bind Json.asNumber?).map make
  | .length make => ((fields.only? "value").bind Json.asCount?).map make
  | .text => ((fields.only? "value").bind Json.asString?).map .pattern
  | .choices => ((fields.only? "values").bind Json.asStrings?).map .oneOf

namespace Json

def Node.toWrittenRule (x : Node) : Except Fault WrittenRule := do
  needed (WrittenRule.ofName? (← x.toText))

/-- What is known of a rule while its members are read, the other members last first. -/
structure RuleDraft where
  kind : Option WrittenRule
  fields : List (String × Json)

def RuleDraft.take (room : Nat) (name : String) (x : Node) (d : RuleDraft) :
    Except Fault RuleDraft :=
  if name = "rule" then do return { d with kind := ← once d.kind x.toWrittenRule }
  else do return { d with fields := (name, ← x.toJson room) :: d.fields }

/-- Reads a rule that has this room for nested values; its name may stand anywhere among its members,
but first among its items. -/
def Node.toRule (room : Nat) : Node → Except Fault Rule
  | .object members => do
    let d ← members.fold (RuleDraft.take (room - 1)) ⟨none, []⟩
    let kind ← needed d.kind
    needed (kind.complete? (.byName d.fields.reverse))
  | .array (.item first rest) => do
    let kind ← first.toWrittenRule
    needed (kind.complete? (.byPosition (← rest.toJson (room - 1))))
  | .array (.cut f) => .error f
  | x => .error x.unwanted

def ruleRoom : Nat := depthLimit - 4

structure ColumnDraft where
  name : Option String
  cellType : Option CellType
  rules : Option (List Rule)
  locale : Option (Option String)
  aliases : Option (List String)

def ColumnDraft.take (name : String) (x : Node) (d : ColumnDraft) : Except Fault ColumnDraft :=
  match name with
  | "name" => do return { d with name := ← once d.name x.toText }
  | "type" => do return { d with cellType := ← once d.cellType (x.toChoice CellType.ofName?) }
  | "rules" => do return { d with rules := ← once d.rules (x.toList (Node.toRule ruleRoom)) }
  | "locale" => do return { d with locale := ← once d.locale (x.toOption Node.toText) }
  | _ => do return { d with aliases := ← once d.aliases (x.toList Node.toText) }

def Node.toColumn (x : Node) : Except Fault ColumnSpec := do
  let d ← x.toFields ["name", "type", "rules", "locale", "aliases"] ColumnDraft.take
    ⟨none, none, none, none, none⟩
  return ⟨← needed d.name, ← needed d.cellType, d.rules.getD [], d.locale.getD none,
    d.aliases.getD []⟩

structure SchemaDraft where
  columns : Option (List ColumnSpec)
  locale : Option (Option String)

def SchemaDraft.take (name : String) (x : Node) (d : SchemaDraft) : Except Fault SchemaDraft :=
  match name with
  | "columns" => do return { d with columns := ← once d.columns (x.toList Node.toColumn) }
  | _ => do return { d with locale := ← once d.locale (x.toOption Node.toText) }

def Node.toSchema (x : Node) : Except Fault Schema := do
  let d ← x.toFields ["columns", "locale"] SchemaDraft.take ⟨none, none⟩
  return ⟨← needed d.columns, d.locale.getD none⟩

end Json

def Schema.ofText (text : String) : Except SchemaError Schema :=
  match Json.readText Json.Node.toSchema text with
  | .ok s => s.checkNames.map fun _ => s
  | .error f => .error (.unreadable f)

end TableAudit
