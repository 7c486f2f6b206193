import TableAudit.Binary64.Basic
import TableAudit.Schema.CellType

/-! Checks of cells against the conventions of a locale, from the library or from outside. -/
namespace TableAudit

structure LocaleFault where
  offset : UInt8
  message : String

structure LocaleCheck where
  faults : List LocaleFault
  /-- The offset of the first fault of a value. -/
  judge : String → Option UInt8
  /-- The number that a value spells. -/
  readNumber : String → Option Binary64

/-- Gives the check of a cell type in a locale, if it has one. It is told the first code that the
check will get. -/
structure LocaleSource where
  check? : CellType → String → UInt8 → Option LocaleCheck

end TableAudit
