/-! Binary floating-point numbers of 64 bits, kept as their bits. A finite magnitude is a whole
number of units of `2 ^ -1074`, so order, rounding and fractions are arithmetic on `Nat`. -/
namespace TableAudit

structure Binary64 where
  bits : UInt64
deriving DecidableEq, Hashable, Inhabited

namespace Binary64

def code (x : Binary64) : Nat := x.bits.toNat % Nat.pow 2 63

def isNegative (x : Binary64) : Bool := Nat.pow 2 63 ≤ x.bits.toNat

def infinityCode : Nat := 2047 * Nat.pow 2 52

def isFinite (x : Binary64) : Bool := x.code < infinityCode

def isNaN (x : Binary64) : Bool := infinityCode < x.code

/-- The magnitude that a code stands for, in units of `2 ^ -1074`: the low 52 bits count units of
the current power of two, and that power doubles with each step of the upper bits. -/
def unitsOfCode (c : Nat) : Nat :=
  if c < Nat.pow 2 52 then c
  else (c % Nat.pow 2 52 + Nat.pow 2 52) * Nat.pow 2 (c / Nat.pow 2 52 - 1)

def units (x : Binary64) : Nat := unitsOfCode x.code

def ofCode (negative : Bool) (c : Nat) : Binary64 :=
  ⟨UInt64.ofNat (if negative then c + Nat.pow 2 63 else c)⟩

def zero : Binary64 := ofCode false 0

def infinity (negative : Bool) : Binary64 := ofCode negative infinityCode

def nan : Binary64 := ofCode false (infinityCode + Nat.pow 2 51)

def neg (x : Binary64) : Binary64 := ⟨x.bits ^^^ 0x8000000000000000⟩

/-- A finite or infinite number's place in the order; both zeros have the same. -/
def rank (x : Binary64) : Int := if x.isNegative then -(x.code : Int) else x.code

def lt (x y : Binary64) : Bool := !x.isNaN && !y.isNaN && x.rank < y.rank

def hasFraction (x : Binary64) : Bool := x.units % Nat.pow 2 1074 != 0

/-- A quotient rounded to a whole number, a half going to the even neighbour. -/
def roundDiv (n d : Nat) : Nat :=
  let q := n / d
  let r := n % d
  if 2 * r < d then q else if d < 2 * r then q + 1 else q + q % 2

/-- The code nearest to `n / d`, a tie going to the even code; infinity when the rounded magnitude
needs a larger exponent than there is. -/
def nearestCode (n d : Nat) : Nat :=
  let whole := n * Nat.pow 2 1074 / d
  let shift := whole.log2 - 52
  Nat.min (roundDiv (n * Nat.pow 2 1074) (d * Nat.pow 2 shift) + shift * Nat.pow 2 52) infinityCode

def ofRatio (negative : Bool) (n d : Nat) : Binary64 := ofCode negative (nearestCode n d)

def ofNat (n : Nat) : Binary64 := ofRatio false n 1

def ofInt (n : Int) : Binary64 := ofRatio (n < 0) n.natAbs 1

def scale (x : Binary64) (n d : Nat) : Binary64 :=
  ofRatio x.isNegative (x.units * n) (Nat.pow 2 1074 * d)

def powerOfTen (e : Nat) : Binary64 := ofNat (Nat.pow 10 e)

def mul (x y : Binary64) : Binary64 := x.scale y.units (Nat.pow 2 1074)

def div (x y : Binary64) : Binary64 := x.scale (Nat.pow 2 1074) y.units

end Binary64
end TableAudit
