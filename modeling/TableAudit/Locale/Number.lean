import TableAudit.Binary64.Numeral
import TableAudit.Locale.Format

/-! Numbers and amounts of money as locales write them. -/
namespace TableAudit

namespace Text

def parts (isMark : Char → Bool) : List Char → List (List Char)
  | [] => [[]]
  | c :: r =>
    match parts isMark r with
    | [] => [[c]]
    | p :: ps => if isMark c then [] :: p :: ps else (c :: p) :: ps

def cut (mark : Char) (cs : List Char) : List Char × Option (List Char) :=
  match cs.dropWhile (· != mark) with
  | [] => (cs, none)
  | _ :: after => (cs.takeWhile (· != mark), some after)

end Text

namespace LocaleFormat

/-- The digits of a whole part, which may stand in groups: at most three digits in the first and
three in each other one. -/
def wholeDigits? (f : LocaleFormat) (cs : List Char) : Option (List Char) :=
  let isGroup (c : Char) : Bool := f.groups.contains c
  match Text.parts isGroup cs with
  | first :: others =>
    let grouped := !others.isEmpty
    if !(first :: others).all (·.all Char.isDigit) then none
    else if grouped && !(1 ≤ first.length && first.length ≤ 3 && others.all (·.length = 3)) then none
    else some ((first :: others).flatten)
  | [] => none

/-- The number that a text spells: an optional sign, a whole part, and at least one digit behind the
decimal mark if there is one; one of the two parts may be missing. -/
def readNumber (f : LocaleFormat) (value : List Char) : Option Binary64 :=
  let text := Text.trim value
  let (negative, body) := Numeral.takeSign text
  let (whole, fraction) := Text.cut f.decimal body
  if fraction.any fun ds => ds.isEmpty || !ds.all Char.isDigit then none
  else
    match f.wholeDigits? whole with
    | none => none
    | some digits =>
      if digits.isEmpty && fraction.isNone then none
      else
        Binary64.finiteOfText? ((if negative then ['-'] else []) ++
          (if digits.isEmpty then ['0'] else digits) ++
          (match fraction with
            | some ds => '.' :: ds
            | none => []))

def dropWord? (word cs : List Char) : Option (List Char) :=
  if word.isPrefixOf cs then some (Text.trimStart (cs.drop word.length))
  else if word.isSuffixOf cs then some (Text.trimEnd (cs.take (cs.length - word.length)))
  else none

/-- The amount that a text spells: an optional sign, then a number with or without a currency symbol
on either side. -/
def readAmount (f : LocaleFormat) (value : List Char) : Option Binary64 :=
  let text := Text.trim value
  let (negative, text) := match text with
    | '-' :: r => (true, Text.trimStart r)
    | '+' :: r => (false, Text.trimStart r)
    | r => (false, r)
  let text := (f.symbols.findSome? fun s => dropWord? s.toList text).getD text
  match text with
  | '-' :: _ | '+' :: _ => none
  | text => (f.readNumber text).map fun x => if negative then x.neg else x

end LocaleFormat
end TableAudit
