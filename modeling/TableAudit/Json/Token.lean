import TableAudit.Json.Basic

/-! The tokens of a JSON text. A token that goes wrong is the last one: it says what a reader of
its value finds and what a reader finds that only passes over it. -/
namespace TableAudit.Json

/-- Why a text does not give what is asked of it. -/
inductive Fault where
  /-- It breaks the rules of the notation. -/
  | malformed
  /-- It ends before its value does. -/
  | cutShort
  /-- It is a value, but not of the wanted shape. -/
  | wrongShape
deriving DecidableEq

inductive Token where
  | openArray
  | closeArray
  | openObject
  | closeObject
  | comma
  | colon
  | null
  | bool (b : Bool)
  /-- None is a literal out of range. -/
  | number (n : Option Number)
  /-- None is a well-formed literal whose escapes spell half a character. -/
  | string (s : Option String)
  | brokenString (read skip : Fault)
  | brokenScalar (read skip : Fault)
  | stray

/-- A character of a string literal, or the 16-bit unit of an escape. -/
inductive Piece where
  | plain (c : Char)
  | unit (n : Nat)

def hexValue? (c : Char) : Option Nat :=
  if c.isDigit then some (c.toNat - 48)
  else if 'a' ≤ c ∧ c ≤ 'f' then some (c.toNat - 87)
  else if 'A' ≤ c ∧ c ≤ 'F' then some (c.toNat - 55)
  else none

def hexUnit? (a b c d : Char) : Option Nat := do
  return 4096 * (← hexValue? a) + 256 * (← hexValue? b) + 16 * (← hexValue? c) + (← hexValue? d)

def simpleEscape? : Char → Option Char
  | '"' => some '"'
  | '\\' => some '\\'
  | '/' => some '/'
  | 'b' => some '\x08'
  | 'f' => some '\x0c'
  | 'n' => some '\n'
  | 'r' => some '\r'
  | 't' => some '\t'
  | _ => none

/-- The pieces of a string up to its closing quote, and the text after the quote. A `\u` with fewer
than four bytes behind it is cut short, whatever these are. -/
def scanString : List Char → List Piece × Except Fault (List Char)
  | [] => ([], .error .cutShort)
  | '"' :: r => ([], .ok r)
  | '\\' :: [] => ([], .error .cutShort)
  | '\\' :: 'u' :: a :: b :: c :: d :: r =>
    match hexUnit? a b c d with
    | some n => let (ps, e) := scanString r; (.unit n :: ps, e)
    | none => ([], .error .malformed)
  | '\\' :: 'u' :: r =>
    ([], .error (if (String.ofList r).utf8ByteSize < 4 then .cutShort else .malformed))
  | '\\' :: c :: r =>
    match simpleEscape? c with
    | some c => let (ps, e) := scanString r; (.plain c :: ps, e)
    | none => ([], .error .malformed)
  | c :: r =>
    if c.toNat < 32 then ([], .error .malformed)
    else let (ps, e) := scanString r; (.plain c :: ps, e)

def isHighSurrogate (n : Nat) : Bool := 0xD800 ≤ n && n ≤ 0xDBFF

def isLowSurrogate (n : Nat) : Bool := 0xDC00 ≤ n && n ≤ 0xDFFF

def spellPieces? : List Piece → Option (List Char)
  | [] => some []
  | .plain c :: ps => (spellPieces? ps).map (c :: ·)
  | .unit n :: .unit m :: ps =>
    if isHighSurrogate n then
      if isLowSurrogate m then
        (spellPieces? ps).map (Char.ofNat (0x10000 + (n - 0xD800) * 0x400 + (m - 0xDC00)) :: ·)
      else none
    else if isLowSurrogate n then none
    else (spellPieces? (.unit m :: ps)).map (Char.ofNat n :: ·)
  | .unit n :: ps =>
    if isHighSurrogate n || isLowSurrogate n then none
    else (spellPieces? ps).map (Char.ofNat n :: ·)

def dropOpenPair (ps : List Piece) : List Piece :=
  match ps.getLast? with
  | some (.unit n) => if isHighSurrogate n then ps.dropLast else ps
  | _ => ps

def stringToken (ps : List Piece) : Token := .string ((spellPieces? ps).map String.ofList)

def brokenStringToken (ps : List Piece) (f : Fault) : Token :=
  .brokenString (if (spellPieces? (dropOpenPair ps)).isSome then f else .malformed) f

def scanWord : List Char → List Char → Except Fault (List Char)
  | [], r => .ok r
  | _ :: _, [] => .error .cutShort
  | w :: ws, c :: r => if w = c then scanWord ws r else .error .malformed

def scanDigits (s : List Char) : Except Fault (List Char × List Char) :=
  match s.takeWhile Char.isDigit, s.dropWhile Char.isDigit with
  | [], [] => .error .cutShort
  | [], _ => .error .malformed
  | ds, r => .ok (ds, r)

def scanExponent (s : List Char) : Except Fault (Option (Bool × List Char) × List Char) :=
  match s with
  | c :: r =>
    if c = 'e' ∨ c = 'E' then
      let (negative, r) := match r with
        | '-' :: r => (true, r)
        | '+' :: r => (false, r)
        | r => (false, r)
      (scanDigits r).map fun (ds, r) => (some (negative, ds), r)
    else .ok (none, s)
  | [] => .ok (none, s)

/-- A number literal behind its sign: no zero stands in front of other digits, and a point or an
exponent has digits behind it. -/
def scanNumber (negative : Bool) (s : List Char) : Except Fault (NumberLiteral × List Char) := do
  let (whole, r) ← scanDigits s
  if whole.head? = some '0' ∧ whole.length ≠ 1 then .error .malformed
  match r with
  | '.' :: r =>
    let (fraction, r) ← scanDigits r
    let (exponent, r) ← scanExponent r
    return (⟨negative, whole, some fraction, exponent⟩, r)
  | r =>
    let (exponent, r) ← scanExponent r
    return (⟨negative, whole, none, exponent⟩, r)

def isSpace (c : Char) : Bool := c = ' ' || c = '\n' || c = '\t' || c = '\r'

def punctuation? : Char → Option Token
  | '[' => some .openArray
  | ']' => some .closeArray
  | '\x7b' => some .openObject
  | '\x7d' => some .closeObject
  | ',' => some .comma
  | ':' => some .colon
  | _ => none

def wordToken (t : Token) (rest : Except Fault (List Char)) : Token × Option (List Char) :=
  match rest with
  | .ok r => (t, some r)
  | .error f => (.brokenScalar f f, none)

def numberToken (scanned : Except Fault (NumberLiteral × List Char)) : Token × Option (List Char) :=
  match scanned with
  | .ok (l, r) => (.number (Number.ofLiteral? l), some r)
  | .error f => (.brokenScalar f .malformed, none)

/-- The token at the start of a text that begins with neither a blank nor punctuation, and the text
after it unless it is broken. -/
def scanToken (c : Char) (r : List Char) : Token × Option (List Char) :=
  match c with
  | '"' =>
    match scanString r with
    | (ps, .ok r) => (stringToken ps, some r)
    | (ps, .error f) => (brokenStringToken ps f, none)
  | 'n' => wordToken .null (scanWord ['u', 'l', 'l'] r)
  | 't' => wordToken (.bool true) (scanWord ['r', 'u', 'e'] r)
  | 'f' => wordToken (.bool false) (scanWord ['a', 'l', 's', 'e'] r)
  | '-' => numberToken (scanNumber true r)
  | c => if c.isDigit then numberToken (scanNumber false (c :: r)) else (.stray, none)

end TableAudit.Json
