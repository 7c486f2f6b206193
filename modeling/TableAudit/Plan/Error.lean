import TableAudit.Grid.Code
import TableAudit.Schema.Basic

/-! Why a schema cannot be audited against. Only schemas fail; cells never do. -/
namespace TableAudit

inductive PlanError where
  | schema (e : SchemaError)
  | badPattern (column pattern : String)
  /-- A rule that does not go with the type of its column. -/
  | misplacedRule (column rule : String) (cellType : CellType)
  | endlessBound (column rule : String)
  | noChoices (column : String)
  | unknownLocale (column locale : String) (cellType : CellType)
  /-- A locale check without faults. -/
  | emptyCheck (column locale : String)
  | tooManyChecks (column : String)
  | tooManyCustomRules (column : String) (count : Nat)

namespace PlanError

def inColumn (column rest : String) : String := "column '" ++ column ++ "': " ++ rest

/-- The message of an error; what is wrong with a pattern is left to its reader. -/
def message : PlanError → String
  | schema e => e.message
  | badPattern column pattern => inColumn column ("invalid pattern '" ++ pattern ++ "': ")
  | misplacedRule column rule t =>
    inColumn column ("rule '" ++ rule ++ "' cannot be applied to a " ++ t.name ++ " column")
  | endlessBound column rule => inColumn column ("rule '" ++ rule ++ "' has a non-finite bound")
  | noChoices column => inColumn column "enum rule has no allowed values"
  | unknownLocale column locale t =>
    inColumn column ("locale '" ++ locale ++ "' is not supported for " ++ t.name ++ " values")
  | emptyCheck column locale =>
    inColumn column ("locale '" ++ locale ++ "' type check declares no errors")
  | tooManyChecks column =>
    inColumn column ("more than " ++ Decimal.text Finding.lastCheck.toNat ++ " compiled checks")
  | tooManyCustomRules column count =>
    inColumn column (Decimal.text count ++ " custom rules exceed the limit of " ++
      Decimal.text Finding.customLimit)

end PlanError
end TableAudit
