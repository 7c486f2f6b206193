import TableAudit.Grid.Code

/-! One byte a cell, row by row. -/
namespace TableAudit

structure CodeMatrix where
  rows : Nat
  cols : Nat
  bytes : Array UInt8
  size_bytes : bytes.size = rows * cols

namespace CodeMatrix

def clear (rows cols : Nat) : CodeMatrix :=
  ⟨rows, cols, Array.replicate (rows * cols) Finding.clear, Array.size_replicate⟩

def set (m : CodeMatrix) (row col : Nat) (code : UInt8) : CodeMatrix :=
  if row < m.rows ∧ col < m.cols then
    { m with
      bytes := m.bytes.setIfInBounds (row * m.cols + col) code
      size_bytes := by rw [Array.size_setIfInBounds, m.size_bytes] }
  else m

def get (m : CodeMatrix) (row col : Nat) : UInt8 :=
  if row < m.rows ∧ col < m.cols then m.bytes.getD (row * m.cols + col) Finding.clear
  else Finding.clear

def byteSize (m : CodeMatrix) : Nat := m.bytes.size

end CodeMatrix
end TableAudit
