/-! The types of cells. -/
namespace TableAudit

inductive CellType where
  | string
  | number
  | integer
  | date
  | boolean
  | enum
  | phone
  | currency
deriving DecidableEq

namespace CellType

def name : CellType → String
  | string => "string"
  | number => "number"
  | integer => "integer"
  | date => "date"
  | boolean => "boolean"
  | enum => "enum"
  | phone => "phone"
  | currency => "currency"

def all : List CellType := [string, number, integer, date, boolean, enum, phone, currency]

def ofName? (s : String) : Option CellType := all.find? fun t => t.name = s

def isLocaleAware : CellType → Bool
  | date | number | boolean | phone | currency => true
  | _ => false

def isNumeric : CellType → Bool
  | number | integer => true
  | _ => false

theorem ofName?_name (t : CellType) : ofName? t.name = some t := by cases t <;> decide

end CellType
end TableAudit
