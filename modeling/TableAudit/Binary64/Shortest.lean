import TableAudit.Binary64.Basic
import TableAudit.Text.Decimal

/-! The shortest decimal that reads back as a given number, and its spellings. -/
namespace TableAudit.Binary64

structure Digits where
  coefficient : Nat
  exponent : Int
deriving DecidableEq

def tenPowerRatio (n : Nat) (e : Int) : Nat × Nat :=
  if 0 ≤ e then (n * Nat.pow 10 e.toNat, 1) else (n, Nat.pow 10 (-e).toNat)

def leadingExponent (units : Nat) : Int :=
  if Nat.pow 2 1074 ≤ units then (Decimal.digits (units / Nat.pow 2 1074)).length - 1
  else
    let places := (Decimal.digits (Nat.pow 2 1074 / units)).length
    if Nat.pow 2 1074 ≤ units * Nat.pow 10 (places - 1) then 1 - (places : Int)
    else -(places : Int)

/-- Whether every reader rounds this decimal to the code `c`: it lies between the midpoints to the
two neighbouring codes, and on one of them only if `c` is even. -/
def readsBack (c : Nat) (d : Digits) : Bool :=
  let (n, m) := tenPowerRatio d.coefficient d.exponent
  let low := (unitsOfCode (c - 1) + unitsOfCode c) * m
  let high := (unitsOfCode c + unitsOfCode (c + 1)) * m
  let point := n * Nat.pow 2 1075
  if c % 2 = 0 then low ≤ point && point ≤ high else low < point && point < high

inductive Tie where
  | up
  | toEven

/-- The decimal on the grid of `10 ^ e` that reads back as the code `c`: the nearer of the two next
to the number. -/
def onGrid? (tie : Tie) (c : Nat) (e : Int) : Option Digits :=
  let u := unitsOfCode c
  let (n, m) := tenPowerRatio 1 e
  let below := u * m / (n * Nat.pow 2 1074)
  let rest := u * m % (n * Nat.pow 2 1074)
  let lower : Digits := ⟨below, e⟩
  let upper : Digits := ⟨below + 1, e⟩
  let downward := 2 * rest < n * Nat.pow 2 1074 || match tie with
    | .up => false
    | .toEven => 2 * rest = n * Nat.pow 2 1074 && below % 2 = 0
  let nearer := if downward then lower else upper
  let farther := if downward then upper else lower
  if readsBack c nearer then some nearer
  else if readsBack c farther then some farther
  else none

def dropZero (d : Digits) : Digits :=
  if d.coefficient % 10 = 0 then ⟨d.coefficient / 10, d.exponent + 1⟩ else d

/-- The fewest digits that read back as a finite number's magnitude; at most 17 are needed. A zero
is dropped where the number just below a power of ten reads back as that power. -/
def shortest (tie : Tie) (x : Binary64) : Digits :=
  if x.code = 0 then ⟨0, 0⟩
  else
    let e := leadingExponent x.units
    (((List.range 17).findSome? fun (n : Nat) => onGrid? tie x.code (e - n)).map dropZero).getD ⟨0, 0⟩

/-- Which exponents are written out, what stands behind a whole number, and how ties go. -/
structure Layout where
  plain : Option (Int × Int)
  wholeMark : List Char
  tie : Tie

def plainForm (ds : List Char) (point : Int) (wholeMark : List Char) : List Char :=
  if point ≤ 0 then '0' :: '.' :: List.replicate (-point).toNat '0' ++ ds
  else if ds.length ≤ point.toNat then ds ++ List.replicate (point.toNat - ds.length) '0' ++ wholeMark
  else ds.take point.toNat ++ '.' :: ds.drop point.toNat

def exponentForm (ds : List Char) (e : Int) : List Char :=
  let mantissa := match ds with
    | d :: [] => [d]
    | d :: rest => d :: '.' :: rest
    | [] => []
  mantissa ++ 'e' :: (if e < 0 then '-' else '+') :: Decimal.digits e.natAbs

def spell (layout : Layout) (x : Binary64) : List Char :=
  let d := x.shortest layout.tie
  let ds := Decimal.digits d.coefficient
  let e := d.exponent + ds.length - 1
  let body := match layout.plain with
    | some (low, high) =>
      if low ≤ e && e ≤ high then plainForm ds (e + 1) layout.wholeMark else exponentForm ds e
    | none => plainForm ds (e + 1) layout.wholeMark
  if x.isNegative then '-' :: body else body

end TableAudit.Binary64
