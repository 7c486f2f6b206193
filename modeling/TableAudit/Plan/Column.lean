import Std.Data.TreeMap
import TableAudit.Audit.Kind
import TableAudit.Binary64.Shortest
import TableAudit.Plan.Error
import TableAudit.Plan.Test

/-! The plan of a column: its numbered tests. Codes go from 1 to 200: first the test for a missing
value, then that of the type, then those of the other rules in their order. -/
namespace TableAudit

structure Notice where
  rule : String
  kind : FindingKind
  message : String
deriving DecidableEq

structure ColumnPlan where
  name : String
  cellType : CellType
  locale : Option String
  tests : List CodedTest
  notices : Std.TreeMap UInt8 Notice
  isRequired : Bool
  isUnique : Bool
  customRules : List CustomRule

namespace ColumnPlan

def fault? (p : ColumnPlan) (value : String) : Option UInt8 := p.tests.findSome? (·.fault? value)

def validate (p : ColumnPlan) (value : String) : UInt8 := (p.fault? value).getD Finding.clear

def failingCustom? (p : ColumnPlan) (value : String) : Option Nat :=
  p.customRules.findIdx? fun c => !c.accepts value

def notice? (p : ColumnPlan) (code : UInt8) : Option Notice := p.notices[code]?

end ColumnPlan

/-- A plan in the making; `next` is the first free code. -/
structure PlanDraft where
  next : UInt8
  tests : List CodedTest
  notices : Std.TreeMap UInt8 Notice

namespace PlanDraft

def empty : PlanDraft := ⟨1, [], ∅⟩

/-- Adds a test that takes this many codes, with the notices of its offsets; a later notice replaces
one of the same offset. -/
def add (d : PlanDraft) (column : String) (width : Nat) (test : Test)
    (notices : List (UInt8 × Notice)) : Except PlanError PlanDraft :=
  if Finding.lastCheck.toNat < d.next.toNat + width - 1 then .error (.tooManyChecks column)
  else .ok
    { next := d.next + UInt8.ofNat width
      tests := d.tests ++ [⟨test, d.next⟩]
      notices := notices.foldl (fun m n => m.insert (d.next + n.1) n.2) d.notices }

def addOne (d : PlanDraft) (column : String) (test : Test) (rule : String) (kind : FindingKind)
    (message : String) : Except PlanError PlanDraft :=
  d.add column 1 test [(0, ⟨rule, kind, message⟩)]

end PlanDraft

namespace ColumnSpec

/-- How bounds stand in messages: all digits, no point behind a whole number, and ties go up. -/
def boundText (x : Binary64) : String := String.ofList (x.spell ⟨none, [], .up⟩)

def offsetsOf (check : LocaleCheck) : List UInt8 :=
  ((List.range 256).map UInt8.ofNat).filter fun o => check.faults.any fun f => f.offset = o

def widthOf (check : LocaleCheck) : Nat :=
  check.faults.foldl (fun n f => max n (f.offset.toNat + 1)) 0

def localeCheck? (c : ColumnSpec) (locale : Option String) (source : LocaleSource) (base : UInt8) :
    Except PlanError (Option LocaleCheck) :=
  match locale with
  | none => .ok none
  | some l =>
    if !c.cellType.isLocaleAware then .ok none
    else
      match source.check? c.cellType l base with
      | none => .error (.unknownLocale c.name l c.cellType)
      | some check => if check.faults.isEmpty then .error (.emptyCheck c.name l) else .ok (some check)

def addType (c : ColumnSpec) (check : Option LocaleCheck) (d : PlanDraft) :
    Except PlanError PlanDraft :=
  match check with
  | some check =>
    d.add c.name (widthOf check) (.locale check (offsetsOf check))
      (check.faults.map fun f => (f.offset, ⟨"type", .type, f.message⟩))
  | none =>
    match PlainForm.ofType? c.cellType with
    | some form => d.addOne c.name (.form form) "type" .type form.message
    | none => .ok d

def numberReader (c : ColumnSpec) (check : Option LocaleCheck) : String → Option Binary64 :=
  match c.cellType, check with
  | .number, some check => check.readNumber
  | _, _ => plainNumber?

def checkBound (c : ColumnSpec) (rule : String) (bound : Binary64) : Except PlanError Unit :=
  if !c.cellType.isNumeric then .error (.misplacedRule c.name rule c.cellType)
  else if !bound.isFinite then .error (.endlessBound c.name rule)
  else .ok ()

def addRule (c : ColumnSpec) (read : String → Option Binary64) (d : PlanDraft) (r : Rule) :
    Except PlanError PlanDraft :=
  match r with
  | .required | .unique | .custom _ => .ok d
  | .min bound => do
    c.checkBound r.name bound
    d.addOne c.name (.atLeast bound read) r.name .range ("Must be at least " ++ boundText bound)
  | .max bound => do
    c.checkBound r.name bound
    d.addOne c.name (.atMost bound read) r.name .range ("Must be at most " ++ boundText bound)
  | .minLength n =>
    d.addOne c.name (.minLength n) r.name .length
      ("Must be at least " ++ Decimal.text n.toNat ++ " characters")
  | .maxLength n =>
    d.addOne c.name (.maxLength n) r.name .length
      ("Must be at most " ++ Decimal.text n.toNat ++ " characters")
  | .pattern text =>
    match Pattern.ofText? text with
    | some p =>
      d.addOne c.name (.pattern p) r.name .pattern "Does not match the required format"
    | none => .error (.badPattern c.name text)
  | .oneOf values =>
    if values.isEmpty then .error (.noChoices c.name)
    else d.addOne c.name (.oneOf values) r.name .choice
      ("Must be one of: " ++ ", ".intercalate values)
  | .email =>
    if c.cellType = .string then
      d.addOne c.name .email r.name .email "Must be a valid email address"
    else .error (.misplacedRule c.name r.name c.cellType)

/-- The plan of a column with the locale of its own or else this one. -/
def plan (c : ColumnSpec) (schemaLocale : Option String) (source : LocaleSource) :
    Except PlanError ColumnPlan := do
  let locale := c.locale.or schemaLocale
  let isRequired := c.rules.any Rule.isRequired
  let d ← if isRequired then
      PlanDraft.empty.addOne c.name .required "required" .required "This field is required"
    else .ok PlanDraft.empty
  let check ← c.localeCheck? locale source d.next
  let d ← c.addType check d
  let d ← c.rules.foldlM (c.addRule (c.numberReader check)) d
  let customRules := c.rules.filterMap Rule.custom?
  if Finding.customLimit < customRules.length then
    .error (.tooManyCustomRules c.name customRules.length)
  else
    return ⟨c.name, c.cellType, locale, d.tests, d.notices, isRequired, c.rules.any Rule.isUnique,
      customRules⟩

end ColumnSpec
end TableAudit
