import TableAudit.Grid.Bits
import TableAudit.Grid.Codes

/-! The findings of a table: a bit and a byte for each cell, written together. -/
namespace TableAudit

structure Marks where
  bits : CellBits
  codes : CodeMatrix

namespace Marks

def clear (rows cols : Nat) : Marks := ⟨.empty rows cols, .clear rows cols⟩

def mark (m : Marks) (row col : Nat) (f : Finding) : Marks :=
  ⟨m.bits.insert row col, m.codes.set row col f.toByte⟩

def finding? (m : Marks) (row col : Nat) : Option Finding := Finding.ofByte? (m.codes.get row col)

end Marks
end TableAudit
