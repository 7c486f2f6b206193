import TableAudit.Grid.Bits

/-! Loops over packed bits. The bits of a word are counted and the cells of a table are listed by
clearing the lowest set bit again and again. -/
namespace TableAudit

def clearLowest (w : BitVec 32) : BitVec 32 := w &&& (w - 1)

private theorem toNat_clearLowest_lt {w : BitVec 32} (h : w ≠ 0) :
    (clearLowest w).toNat < w.toNat := by
  have hpos : w.toNat ≠ 0 := fun h0 => h (BitVec.eq_of_toNat_eq h0)
  have hle : (clearLowest w).toNat ≤ (w - 1).toNat := Nat.and_le_right
  have hw := w.isLt
  rw [BitVec.toNat_sub, show (1 : BitVec 32).toNat = 1 from rfl] at hle
  omega

def countBits (w : BitVec 32) : Nat :=
  if h : w = 0 then 0 else countBits (clearLowest w) + 1
termination_by w.toNat
decreasing_by exact toNat_clearLowest_lt h

/-- A place on the way along the words of a table: what is left of a word, its number, and the words
behind it. Bits from the limit on are none of the table. -/
structure BitCursor where
  limit : Nat
  number : Nat
  left : BitVec 32
  behind : List (BitVec 32)

namespace BitCursor

def next? : BitCursor → Option (Nat × BitCursor)
  | ⟨limit, number, left, behind⟩ =>
    if left ≠ 0 then
      let i := 32 * number + left.ctz.toNat
      if i < limit then some (i, ⟨limit, number, clearLowest left, behind⟩) else none
    else
      match behind with
      | [] => none
      | w :: ws => next? ⟨limit, number + 1, w, ws⟩
termination_by c => c.behind.length

inductive Gives : BitCursor → List Nat → Prop
  | stop {c} : c.next? = none → Gives c []
  | step {c i d is} : c.next? = some (i, d) → Gives d is → Gives c (i :: is)

end BitCursor

def CellBits.cursor (b : CellBits) : BitCursor :=
  ⟨b.rows * b.cols, 0, b.words.toList.headD 0, b.words.toList.tail⟩

end TableAudit
