import TableAudit.Binary64.Basic
import TableAudit.Text.Decimal

/-! Numerals with a decimal point: reading one gives the number nearest to what it says. -/
namespace TableAudit

structure Numeral where
  negative : Bool
  whole : List Char
  fraction : List Char
  exponent : Int

namespace Numeral

/-- The number nearest to `coefficient * 10 ^ exponent`. Beyond the exponents tested first every
magnitude is infinite or zero, whatever the coefficient of that many digits is. -/
def nearest (negative : Bool) (coefficient digits : Nat) (exponent : Int) : Binary64 :=
  if coefficient = 0 then Binary64.ofCode negative 0
  else if 400 < exponent then Binary64.infinity negative
  else if exponent + digits < -400 then Binary64.ofCode negative 0
  else if 0 ≤ exponent then Binary64.ofRatio negative (coefficient * Nat.pow 10 exponent.toNat) 1
  else Binary64.ofRatio negative coefficient (Nat.pow 10 (-exponent).toNat)

def toBinary64 (n : Numeral) : Binary64 :=
  let digits := n.whole ++ n.fraction
  nearest n.negative (Decimal.value digits) digits.length (n.exponent - n.fraction.length)

def takeSign : List Char → Bool × List Char
  | '-' :: r => (true, r)
  | '+' :: r => (false, r)
  | r => (false, r)

/-- The exponent after a mantissa: nothing, or `e` with an optional sign and at least one digit. -/
def exponent? : List Char → Option Int
  | [] => some 0
  | c :: r =>
    if c = 'e' ∨ c = 'E' then
      let (negative, ds) := takeSign r
      if ds.isEmpty || !ds.all Char.isDigit then none
      else some (if negative then -(Decimal.value ds : Int) else Decimal.value ds)
    else none

def unsigned? (negative : Bool) (s : List Char) : Option Numeral :=
  let whole := s.takeWhile Char.isDigit
  let rest := s.dropWhile Char.isDigit
  let fraction := match rest with
    | '.' :: r => r.takeWhile Char.isDigit
    | _ => []
  let rest := match rest with
    | '.' :: r => r.dropWhile Char.isDigit
    | r => r
  if whole.isEmpty && fraction.isEmpty then none
  else (exponent? rest).map (Numeral.mk negative whole fraction)

end Numeral

namespace Binary64

def word? (negative : Bool) (s : List Char) : Option Binary64 :=
  let lowered := s.map Char.toLower
  if lowered = "inf".toList ∨ lowered = "infinity".toList then some (infinity negative)
  else if lowered = "nan".toList then some nan
  else none

/-- The number that a text spells: a word or a numeral behind an optional sign, and nothing else. -/
def ofText? (s : List Char) : Option Binary64 :=
  let (negative, body) := Numeral.takeSign s
  match word? negative body with
  | some x => some x
  | none => (Numeral.unsigned? negative body).map Numeral.toBinary64

def finiteOfText? (s : List Char) : Option Binary64 := (ofText? s).filter isFinite

end Binary64
end TableAudit
