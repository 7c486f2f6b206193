/-! One bit a cell, packed row by row into words of 32 bits. -/
namespace TableAudit

/-- A set of cells of a table of this size. -/
structure CellBits where
  rows : Nat
  cols : Nat
  words : Array (BitVec 32)
  size_words : words.size = (rows * cols + 31) / 32

namespace CellBits

def empty (rows cols : Nat) : CellBits :=
  ⟨rows, cols, Array.replicate ((rows * cols + 31) / 32) 0, Array.size_replicate⟩

def position? (b : CellBits) (row col : Nat) : Option Nat :=
  if row < b.rows ∧ col < b.cols then some (row * b.cols + col) else none

def insert (b : CellBits) (row col : Nat) : CellBits :=
  match b.position? row col with
  | none => b
  | some i =>
    { b with
      words := b.words.modify (i / 32) (· ||| BitVec.twoPow 32 (i % 32))
      size_words := by rw [Array.size_modify, b.size_words] }

def bit (b : CellBits) (i : Nat) : Bool := (b.words.getD (i / 32) 0).getLsbD (i % 32)

def contains (b : CellBits) (row col : Nat) : Bool := (b.position? row col).any b.bit

def hasRow (b : CellBits) (row : Nat) : Bool := (List.range b.cols).any (b.contains row)

/-- The positions of the set bits of a word, lowest first. -/
def bitsOf (w : BitVec 32) : List Nat :=
  if w = 0 then [] else (List.range 32).filter w.getLsbD

def count (b : CellBits) : Nat := (b.words.toList.flatMap bitsOf).length

def countRows (b : CellBits) : Nat := (List.range b.rows).countP b.hasRow

def rowsOf (b : CellBits) (col : Nat) : List Nat :=
  (List.range b.rows).filter fun row => b.contains row col

def colsOf (b : CellBits) (row : Nat) : List Nat := (List.range b.cols).filter (b.contains row)

/-- The positions of all cells, ascending; words without a cell are passed over. -/
def positions (b : CellBits) : List Nat :=
  (b.words.toList.zipIdx.flatMap fun (w, k) => (bitsOf w).map (32 * k + ·)).filter
    (· < b.rows * b.cols)

def cells (b : CellBits) : List (Nat × Nat) :=
  b.positions.map fun i => (i / b.cols, i % b.cols)

def wordCount (b : CellBits) : Nat := b.words.size

def byteSize (b : CellBits) : Nat := 4 * b.words.size

end CellBits
end TableAudit
