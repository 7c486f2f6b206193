import TableAudit.Locale.Standard
import TableAudit.Pattern.Size
import TableAudit.Text.Quoted

/-! Tests of single values. -/
namespace TableAudit

namespace Pattern

/-- A part without blanks, an `@`, and two such parts with a point between them; the parts have no
`@` either. -/
def email : Pattern :=
  let part := many (.chars (CharSet.blanks.union (.single '@')).complement)
  whole [part, char '@', part, char '.', part]

/-- An optional sign, dollar, euro, pound or yen sign and blank, digits that may stand in groups of
three, and at most two digits behind a point. -/
def plainAmount : Pattern :=
  let group := .seq (char ',') (exactly digit 3)
  whole [optional (.alt (char '-') (char '+')),
    optional (.alt (char '$') (.alt (char '€') (.alt (char '£') (char '¥')))), optional blank,
    .alt (.seq (between digit 1 3) (many group)) (many digit),
    optional (.seq (char '.') (between digit 1 2))]

end Pattern

def plainNumber? (value : String) : Option Binary64 :=
  Binary64.finiteOfText? (Text.trim value.toList)

inductive PlainForm where
  | number
  | integer
  | boolean
  | date
  | phone
  | currency
deriving DecidableEq

namespace PlainForm

def ofType? : CellType → Option PlainForm
  | .number => some number
  | .integer => some integer
  | .boolean => some boolean
  | .date => some date
  | .phone => some phone
  | .currency => some currency
  | .string | .enum => none

def truthWords : List String := ["true", "false", "1", "0", "yes", "no"]

def accepts (form : PlainForm) (value : String) : Bool :=
  match form with
  | number => (plainNumber? value).isSome
  | integer => (plainNumber? value).any fun x => !x.hasFraction
  | boolean => truthWords.any fun w => value.toList.map Char.toLower = w.toList
  | date => Pattern.isoDate.occursIn value.toList
  | phone =>
    (countDigits? [' ', '-', '+', '(', ')', '.'] value.toList).any fun n => 7 ≤ n && n ≤ 15
  | currency => Pattern.plainAmount.occursIn (Text.trim value.toList)

def message : PlainForm → String
  | number => "Must be a valid number"
  | integer => "Must be a whole number"
  | boolean => "Must be true/false, yes/no or 1/0"
  | date => "Must be a date in YYYY-MM-DD format"
  | phone => "Must be a valid phone number"
  | currency => "Must be a valid currency amount"

end PlainForm

inductive Test where
  | required
  | form (f : PlainForm)
  /-- The check of a locale with the offsets of its faults, ascending. -/
  | locale (check : LocaleCheck) (offsets : List UInt8)
  | atLeast (bound : Binary64) (read : String → Option Binary64)
  | atMost (bound : Binary64) (read : String → Option Binary64)
  | minLength (n : UInt64)
  | maxLength (n : UInt64)
  | pattern (p : Pattern)
  | oneOf (values : List String)
  | email

structure CodedTest where
  test : Test
  code : UInt8

namespace CodedTest

/-- The code of a fault that a locale check reports; one that it has not declared counts as its first
declared one. -/
def localeCode (code : UInt8) (offsets : List UInt8) (offset : UInt8) : UInt8 :=
  let offset := if offsets.contains offset then offset else offsets.headD 0
  if code.toNat + offset.toNat < 256 then code + offset else code

/-- The code of the fault of a value, if it has one. The empty value fails only where a value is
required, and no test but that looks at it. -/
def fault? (t : CodedTest) (value : String) : Option UInt8 :=
  let failing (b : Bool) : Option UInt8 := if b then some t.code else none
  if value.isEmpty then
    match t.test with
    | .required => some t.code
    | _ => none
  else
    match t.test with
    | .required => none
    | .form f => failing (!f.accepts value)
    | .locale check offsets => (check.judge value).map (localeCode t.code offsets)
    | .atLeast bound read => failing ((read value).any fun x => x.lt bound)
    | .atMost bound read => failing ((read value).any fun x => bound.lt x)
    | .minLength n => failing (value.length < n.toNat)
    | .maxLength n => failing (n.toNat < value.length)
    | .pattern p => failing (!p.occursIn value.toList)
    | .oneOf values => failing (!values.contains value)
    | .email => failing (!Pattern.email.occursIn value.toList)

end CodedTest
end TableAudit
