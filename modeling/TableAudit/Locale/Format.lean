import TableAudit.Pattern.Basic
import TableAudit.Text.Blank

/-! The built-in locales and how a locale is found by its name. -/
namespace TableAudit

inductive DateOrder where
  | yearMonthDay
  | monthDayYear
  | dayMonthYear
deriving DecidableEq

structure LocaleFormat where
  language : String
  region : String
  decimal : Char
  /-- The characters that may stand between groups of three digits. -/
  groups : List Char
  numberExample : String
  dateMark : Char
  dateOrder : DateOrder
  dateLabel : String
  trueWords : List String
  falseWords : List String
  symbols : List String
  phoneDigits : Nat × Nat

namespace LocaleFormat

def american : LocaleFormat where
  language := "en"
  region := "US"
  decimal := '.'
  groups := [',']
  numberExample := "1,234.56"
  dateMark := '/'
  dateOrder := .monthDayYear
  dateLabel := "MM/DD/YYYY"
  trueWords := ["true", "yes", "y", "1"]
  falseWords := ["false", "no", "n", "0"]
  symbols := ["US$", "$", "USD"]
  phoneDigits := (10, 11)

def british : LocaleFormat where
  language := "en"
  region := "GB"
  decimal := '.'
  groups := [',']
  numberExample := "1,234.56"
  dateMark := '/'
  dateOrder := .dayMonthYear
  dateLabel := "DD/MM/YYYY"
  trueWords := ["true", "yes", "y", "1"]
  falseWords := ["false", "no", "n", "0"]
  symbols := ["£", "GBP"]
  phoneDigits := (10, 13)

def german : LocaleFormat where
  language := "de"
  region := "DE"
  decimal := ','
  groups := ['.']
  numberExample := "1.234,56"
  dateMark := '.'
  dateOrder := .dayMonthYear
  dateLabel := "TT.MM.JJJJ"
  trueWords := ["wahr", "ja", "j", "true", "1"]
  falseWords := ["falsch", "nein", "n", "false", "0"]
  symbols := ["€", "EUR"]
  phoneDigits := (7, 15)

def french : LocaleFormat where
  language := "fr"
  region := "FR"
  decimal := ','
  groups := [' ', '\u00a0', '\u202f']
  numberExample := "1 234,56"
  dateMark := '/'
  dateOrder := .dayMonthYear
  dateLabel := "JJ/MM/AAAA"
  trueWords := ["vrai", "oui", "o", "true", "1"]
  falseWords := ["faux", "non", "n", "false", "0"]
  symbols := ["€", "EUR"]
  phoneDigits := (9, 13)

/-- The built-in locales; a language alone stands for the first of its locales. -/
def all : List LocaleFormat := [american, british, german, french]

def id (f : LocaleFormat) : String := f.language ++ "-" ++ f.region

/-- A locale name in the form in which names are compared: without blanks around it, with hyphens for
underscores, and in ASCII lower case. -/
def normalName (name : String) : List Char :=
  ((Text.trim name.toList).map fun c => if c = '_' then '-' else c).map Char.toLower

def find? (name : String) : Option LocaleFormat :=
  let n := normalName name
  match all.find? fun f => f.id.toList.map Char.toLower = n with
  | some f => some f
  | none => if '-' ∈ n then none else all.find? fun f => f.language.toList = n

end LocaleFormat
end TableAudit
