import TableAudit.Text.CharSet

/-! Sets of characters as sequences of byte ranges. A sequence stands for all characters whose UTF-8
form takes one byte from each range in turn. -/
namespace TableAudit.Pattern

structure ByteRange where
  first : Nat
  last : Nat
deriving DecidableEq

namespace ByteRange

/-- The parts of a range whose code points need equally many bytes; surrogates are left out. -/
def byLength (r : Nat × Nat) : List (Nat × Nat) :=
  [(0, 0x7F), (0x80, 0x7FF), (0x800, 0xD7FF), (0xE000, 0xFFFF), (0x10000, 0x10FFFF)].filterMap
    fun (a, b) => if max a r.1 ≤ min b r.2 then some (max a r.1, min b r.2) else none

def byBlock (block : Nat) (r : Nat × Nat) : List (Nat × Nat) :=
  let (a, b) := r
  if a / block = b / block then [r]
  else
    let low := if a % block = 0 then a else (a / block + 1) * block
    let high := if (b + 1) % block = 0 then b + 1 else b / block * block
    (if a < low then [(a, low - 1)] else []) ++ (if low < high then [(low, high - 1)] else []) ++
      (if high ≤ b then [(high, b)] else [])

/-- The parts of a range that are all combinations of their bytes. -/
def byBytes (r : Nat × Nat) : List (Nat × Nat) :=
  if r.2 < 0x80 then [r]
  else ((byBlock 64 r).flatMap (byBlock 4096)).flatMap (byBlock 262144)

def codeBytes (n : Nat) : List Nat :=
  if n < 0x80 then [n]
  else if n < 0x800 then [0xC0 + n / 64, 0x80 + n % 64]
  else if n < 0x10000 then [0xE0 + n / 4096, 0x80 + n / 64 % 64, 0x80 + n % 64]
  else [0xF0 + n / 262144, 0x80 + n / 4096 % 64, 0x80 + n / 64 % 64, 0x80 + n % 64]

def sequences (s : CharSet) : List (List ByteRange) :=
  ((s.ranges.flatMap byLength).flatMap byBytes).map fun (a, b) =>
    List.zipWith ByteRange.mk (codeBytes a) (codeBytes b)

end ByteRange
end TableAudit.Pattern
