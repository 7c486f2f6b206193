import TableAudit.Binary64.Basic
import TableAudit.Text.Decimal
import TableAudit.Text.Quoted

/-! Rules for the cells of a column. -/
namespace TableAudit

/-- A predicate from outside with the message for the values that it rejects. Two predicates are
told apart by their identity. -/
structure CustomRule where
  identity : Nat
  accepts : String → Bool
  message : String

inductive Rule where
  | required
  | min (bound : Binary64)
  | max (bound : Binary64)
  | minLength (n : UInt64)
  | maxLength (n : UInt64)
  | pattern (text : String)
  | oneOf (values : List String)
  | email
  | unique
  | custom (c : CustomRule)

namespace Rule

def name : Rule → String
  | required => "required"
  | min _ => "min"
  | max _ => "max"
  | minLength _ => "minLength"
  | maxLength _ => "maxLength"
  | pattern _ => "pattern"
  | oneOf _ => "enum"
  | email => "email"
  | unique => "unique"
  | custom _ => "custom"

def isRequired : Rule → Bool
  | required => true
  | _ => false

def isUnique : Rule → Bool
  | unique => true
  | _ => false

def custom? : Rule → Option CustomRule
  | custom c => some c
  | _ => none

def bound? : Rule → Option Binary64
  | min bound | max bound => some bound
  | _ => none

/-- A text that tells the rule from every other: bounds by their bits, strings in quotes, and custom
predicates by their identity. -/
def signature : Rule → List Char
  | required => "required".toList
  | min bound => "min=".toList ++ Decimal.digits bound.bits.toNat
  | max bound => "max=".toList ++ Decimal.digits bound.bits.toNat
  | minLength n => "minLength=".toList ++ Decimal.digits n.toNat
  | maxLength n => "maxLength=".toList ++ Decimal.digits n.toNat
  | pattern text => "pattern=".toList ++ Text.quoted text
  | oneOf values => "enum=".toList ++ Text.quotedList values
  | email => "email".toList
  | unique => "unique".toList
  | custom c =>
    "custom@".toList ++ Nat.toDigits 16 c.identity ++ '=' :: Text.quoted c.message

end Rule
end TableAudit
