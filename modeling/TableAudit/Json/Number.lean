import TableAudit.Binary64.Shortest

/-! Numbers in JSON: whole numbers of 64 bits stay exact, all others are binary floating point.
Reading keeps at most 64 bits of the digits and scales by a power of ten once more rounded, so a
long numeral may miss the nearest number; writing uses the shortest digits. -/
namespace TableAudit.Json

inductive Number where
  | whole (n : Int)
  | float (x : Binary64)
deriving DecidableEq

structure NumberLiteral where
  negative : Bool
  whole : List Char
  fraction : Option (List Char)
  exponent : Option (Bool × List Char)

namespace Number

def toBinary64 : Number → Binary64
  | .whole n => .ofInt n
  | .float x => x

/-- Digits are taken into the coefficient while it stays below `2 ^ 64`; the rest is returned. -/
def gather (coefficient : Nat) : List Char → Nat × List Char
  | [] => (coefficient, [])
  | d :: ds =>
    let next := coefficient * 10 + Decimal.digitValue d
    if next < Nat.pow 2 64 then gather next ds else (coefficient, d :: ds)

/-- Division by `10 ^ k`, in steps of at most `10 ^ 308` until nothing is left. -/
def divideByTens (x : Binary64) (k : Nat) : Binary64 :=
  if k ≤ 308 then x.div (Binary64.powerOfTen k)
  else if x.code = 0 then x
  else divideByTens (x.div (Binary64.powerOfTen 308)) (k - 308)
termination_by k

def scaled? (coefficient : Nat) (exponent : Int) : Option Binary64 :=
  let x := Binary64.ofNat coefficient
  if 0 ≤ exponent then
    if exponent ≤ 308 then (some (x.mul (Binary64.powerOfTen exponent.toNat))).filter Binary64.isFinite
    else if coefficient = 0 then some x else none
  else some (divideByTens x (-exponent).toNat)

/-- Exponents of 32 bits and more are not added up: they stand for zero or for too large a number. -/
def float? (l : NumberLiteral) : Option Binary64 :=
  let (leading, dropped) := gather 0 l.whole
  let fraction := l.fraction.getD []
  let (coefficient, left) := gather leading fraction
  let shift : Int := dropped.length - (fraction.length - left.length : Nat)
  let magnitude := match l.exponent with
    | none => scaled? coefficient shift
    | some (negative, ds) =>
      let e := Decimal.value ds
      if e < Nat.pow 2 31 then scaled? coefficient (if negative then shift - e else shift + e)
      else if coefficient = 0 || negative then some Binary64.zero
      else none
  magnitude.map fun x => if l.negative then x.neg else x

/-- What a literal stands for; none when it is out of range. A whole number that fits 64 bits, with
a sign 63, is kept exactly, and `-0` is the floating-point zero with that sign. -/
def ofLiteral? (l : NumberLiteral) : Option Number :=
  let n := Decimal.value l.whole
  if l.fraction.isSome || l.exponent.isSome then (float? l).map .float
  else if l.negative then
    if 0 < n ∧ n ≤ Nat.pow 2 63 then some (.whole (-(n : Int))) else (float? l).map .float
  else if n < Nat.pow 2 64 then some (.whole n)
  else (float? l).map .float

/-- Exponents from -5 to 15 are written out, and a whole number then ends in `.0`; ties go to the even
digit. -/
def layout : Binary64.Layout := ⟨some (-5, 15), ['.', '0'], .toEven⟩

def spell : Number → List Char
  | .whole n => if n < 0 then '-' :: Decimal.digits n.natAbs else Decimal.digits n.natAbs
  | .float x => if x.isFinite then x.spell layout else ['n', 'u', 'l', 'l']

end Number
end TableAudit.Json
