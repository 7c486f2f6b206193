import TableAudit.Locale.Basic
import TableAudit.Locale.Date
import TableAudit.Text.Lower

/-! The checks of the built-in locales. -/
namespace TableAudit

/-- How many ASCII digits a text of digits and these marks has; none when it holds anything else. -/
def countDigits? (marks : List Char) (cs : List Char) : Option Nat :=
  if cs.all fun c => c.isDigit || marks.contains c then some (cs.countP Char.isDigit) else none

namespace LocaleFormat

def isTruthWord (f : LocaleFormat) (value : List Char) : Bool :=
  (f.trueWords ++ f.falseWords).contains (String.ofList (Text.lower (Text.trim value)))

def isPhone (f : LocaleFormat) (value : List Char) : Bool :=
  (countDigits? [' ', '-', '+', '(', ')', '.', '/'] (Text.trim value)).any fun n =>
    f.phoneDigits.1 ≤ n && n ≤ f.phoneDigits.2

def simpleCheck (message : String) (accepts : List Char → Bool) : LocaleCheck where
  faults := [⟨0, message⟩]
  judge value := if accepts value.toList then none else some 0
  readNumber _ := none

def check? (f : LocaleFormat) : CellType → Option LocaleCheck
  | .number => some
    { simpleCheck ("Must be a valid number (e.g. " ++ f.numberExample ++ ")")
        fun v => (f.readNumber v).isSome with
      readNumber := fun value => f.readNumber value.toList }
  | .date => some
    { faults := [⟨0, "Must be a date in " ++ f.dateLabel ++ " format"⟩,
        ⟨1, "Must be a real calendar date"⟩]
      judge := fun value => f.judgeDate value.toList
      readNumber := fun _ => none }
  | .boolean => some (simpleCheck
      ("Must be one of: " ++ ", ".intercalate (f.trueWords ++ f.falseWords)) f.isTruthWord)
  | .phone => some (simpleCheck
      ("Must be a phone number with " ++ Decimal.text f.phoneDigits.1 ++ " to " ++
        Decimal.text f.phoneDigits.2 ++ " digits") f.isPhone)
  | .currency => some (simpleCheck
      ("Must be a currency amount (e.g. " ++ f.symbols.headD "" ++ " " ++ f.numberExample ++ ")")
      fun v => (f.readAmount v).isSome)
  | .string | .integer | .enum => none

end LocaleFormat

namespace LocaleSource

def standard : LocaleSource where
  check? t name _ := (LocaleFormat.find? name).bind fun f => f.check? t

def standardSupports (name : String) : Bool := (LocaleFormat.find? name).isSome

def standardNames : List String := LocaleFormat.all.map LocaleFormat.id

end LocaleSource
end TableAudit
