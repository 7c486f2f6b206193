import TableAudit.Locale.Number
import TableAudit.Pattern.Search

/-! Dates: their written shapes and the Gregorian calendar. -/
namespace TableAudit

namespace Calendar

def isLeapYear (year : Nat) : Bool := year % 4 = 0 && (year % 100 != 0 || year % 400 = 0)

def daysIn (year month : Nat) : Nat :=
  if month = 2 then if isLeapYear year then 29 else 28
  else if month = 4 ∨ month = 6 ∨ month = 9 ∨ month = 11 then 30
  else 31

def isDate (year month day : Nat) : Bool :=
  1 ≤ month && month ≤ 12 && 1 ≤ day && day ≤ daysIn year month

end Calendar

namespace Pattern

def isoDate : Pattern :=
  whole [exactly digit 4, char '-', exactly digit 2, char '-', exactly digit 2]

def shortDate (mark : Char) : Pattern :=
  whole [between digit 1 2, char mark, between digit 1 2, char mark, exactly digit 4]

end Pattern

/-- The date that three numbers in ASCII digits name in some order, if there is such a day. -/
def DateOrder.isDate (order : DateOrder) (numbers : List (List Char)) : Bool :=
  match numbers with
  | [a, b, c] =>
    if !numbers.all (·.all Char.isDigit) then false
    else
      let a := Decimal.value a
      let b := Decimal.value b
      let c := Decimal.value c
      match order with
      | .yearMonthDay => Calendar.isDate a b c
      | .monthDayYear => Calendar.isDate c a b
      | .dayMonthYear => Calendar.isDate c b a
  | _ => false

/-- The fault of a date: 0 for a text of another shape, 1 for a day that does not exist. Digits of
any script make a shape, but only ASCII digits make a day. -/
def LocaleFormat.judgeDate (f : LocaleFormat) (value : List Char) : Option UInt8 :=
  let text := Text.trim value
  let judge (order : DateOrder) (mark : Char) : Option UInt8 :=
    if order.isDate (Text.parts (· = mark) text) then none else some 1
  if Pattern.isoDate.occursIn text then judge .yearMonthDay '-'
  else if (Pattern.shortDate f.dateMark).occursIn text then judge f.dateOrder f.dateMark
  else some 0

end TableAudit
