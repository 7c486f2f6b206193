import TableAudit.Pattern.Term
import TableAudit.Text.Blank
import TableAudit.Text.Decimal
import TableAudit.Text.Classes

/-! The smallest parts of written patterns: remarks, counts, escapes and flags. Every reader answers
with what it read and the text behind it, or with none when the text is refused. -/
namespace TableAudit.Pattern

def skipRemarks (inRemark : Bool) : List Char → List Char
  | [] => []
  | c :: r =>
    if inRemark then skipRemarks (c != '\n') r
    else if Text.isBlank c then skipRemarks false r
    else if c = '#' then skipRemarks true r
    else c :: r

def skipSpace (extended : Bool) (s : List Char) : List Char :=
  if extended then skipRemarks false s else s

private theorem length_skipRemarks (b : Bool) (s : List Char) :
    (skipRemarks b s).length ≤ s.length := by
  fun_induction skipRemarks b s <;> simp_all <;> omega

private theorem length_skipSpace (b : Bool) (s : List Char) :
    (skipSpace b s).length ≤ s.length := by
  unfold skipSpace
  split
  · exact length_skipRemarks false s
  · exact Nat.le_refl _

def takeSpaced (extended : Bool) (wanted : Char → Bool) : List Char → List Char × List Char
  | [] => ([], [])
  | c :: r =>
    if wanted c then
      let (cs, rest) := takeSpaced extended wanted (skipSpace extended r)
      (c :: cs, rest)
    else ([], c :: r)
termination_by s => s.length
decreasing_by
  have := length_skipSpace extended r
  simp only [List.length_cons]
  omega

def count? (extended : Bool) (s : List Char) : Option (Nat × List Char) :=
  let (ds, r) := takeSpaced extended Char.isDigit (Text.trimStart s)
  let n := Decimal.value ds
  if ds.isEmpty || Nat.pow 2 32 ≤ n then none else some (n, Text.trimStart r)

def bounds? (extended : Bool) (s : List Char) : Option ((Nat × Option Nat) × List Char) := do
  let (least, r) ← count? extended (skipSpace extended s)
  let (most, r) ← match r with
    | ',' :: r =>
      match skipSpace extended r with
      | '\x7d' :: r => some (none, '\x7d' :: r)
      | r => (count? extended r).map fun (n, r) => (some n, r)
    | r => some (some least, r)
  match r with
  | '\x7d' :: r => if most.any (· < least) then none else some ((least, most), skipSpace extended r)
  | _ => none

def isHexDigit (c : Char) : Bool :=
  c.isDigit || ('a' ≤ c && c ≤ 'f') || ('A' ≤ c && c ≤ 'F')

def hexNumber (cs : List Char) : Nat := CharSet.hexValue (cs.map Char.toUpper)

def charOfHex? (cs : List Char) : Option Char :=
  let n := hexNumber cs
  if cs.isEmpty || !cs.all isHexDigit then none
  else if h : n.isValidChar then some (Char.ofNatAux n h)
  else none

def hexRun? (extended : Bool) : Nat → List Char → Option (List Char × List Char)
  | 0, s => some ([], s)
  | _ + 1, [] => none
  | n + 1, c :: r => (hexRun? extended n (skipSpace extended r)).map fun (cs, r) => (c :: cs, r)

def hexEscape? (extended : Bool) (digits : Nat) (s : List Char) : Option (Letter × List Char) :=
  match s with
  | '\x7b' :: r => do
    let (cs, r) := takeSpaced extended (· != '\x7d') (skipSpace extended r)
    let c ← charOfHex? cs
    match r with
    | '\x7d' :: r => return (⟨c, false⟩, skipSpace extended r)
    | _ => none
  | s => do
    let (cs, r) ← hexRun? extended digits s
    let c ← charOfHex? cs
    return (⟨c, digits = 2⟩, r)

def splitAt? (mark : List Char) : List Char → Option (List Char × List Char)
  | [] => none
  | c :: r =>
    if mark.isPrefixOf (c :: r) then some ([], (c :: r).drop mark.length)
    else (splitAt? mark r).map fun (a, b) => (c :: a, b)

def query (cs : List Char) : PropertyQuery × Bool :=
  let valued (pair : List Char × List Char) : PropertyQuery :=
    .valued (String.ofList pair.1) (String.ofList pair.2)
  match splitAt? ['!', '='] cs with
  | some pair => (valued pair, true)
  | none =>
    match splitAt? [':'] cs with
    | some pair => (valued pair, false)
    | none =>
      match splitAt? ['='] cs with
      | some pair => (valued pair, false)
      | none => (.named (String.ofList cs), false)

def propertyClass? (extended negated : Bool) (s : List Char) :
    Option ((PropertyQuery × Bool) × List Char) :=
  match s with
  | '\x7b' :: r =>
    let (cs, r) := takeSpaced extended (· != '\x7d') (skipSpace extended r)
    match r with
    | '\x7d' :: r => let (q, opposite) := query cs; some ((q, negated != opposite), r)
    | _ => none
  | '\\' :: _ => none
  | c :: r => some ((.named (String.singleton c), negated), skipSpace extended r)
  | [] => none

/-- A word edge, which a name in braces makes more special; what cannot be such a name is left to
be read as a repetition. -/
def wordEdge? (extended : Bool) (s : List Char) : Option (Anchor × List Char) :=
  let inName (c : Char) : Bool := c.isAlpha || c = '-'
  match s with
  | '\x7b' :: r =>
    match takeSpaced extended inName (skipSpace extended r) with
    | ([], []) => none
    | ([], _) => some (.wordEdge, s)
    | (name, '\x7d' :: r) =>
      if name = "start".toList then some (.wordStart, r)
      else if name = "end".toList then some (.wordFinish, r)
      else if name = "start-half".toList then some (.wordStartHalf, r)
      else if name = "end-half".toList then some (.wordFinishHalf, r)
      else none
    | _ => none
  | s => some (.wordEdge, s)

def controlEscape? : Char → Option Char
  | 'a' => some '\x07'
  | 'f' => some '\x0c'
  | 't' => some '\t'
  | 'n' => some '\n'
  | 'r' => some '\r'
  | 'v' => some '\x0b'
  | _ => none

def isEscapable (c : Char) : Bool := c.toNat < 128 && !c.isAlphanum && c != '<' && c != '>'

def escape? (extended : Bool) : List Char → Option (Term × List Char)
  | [] => none
  | c :: r =>
    let literal (c : Char) : Term := .letter ⟨c, false⟩
    match c with
    | 'x' => (hexEscape? extended 2 (skipSpace extended r)).map fun (l, r) => (.letter l, r)
    | 'u' => (hexEscape? extended 4 (skipSpace extended r)).map fun (l, r) => (.letter l, r)
    | 'U' => (hexEscape? extended 8 (skipSpace extended r)).map fun (l, r) => (.letter l, r)
    | 'p' =>
      (propertyClass? extended false (skipSpace extended r)).map fun (q, r) => (.property q.1 q.2, r)
    | 'P' =>
      (propertyClass? extended true (skipSpace extended r)).map fun (q, r) => (.property q.1 q.2, r)
    | 'd' => some (.perl .digit false, r)
    | 'D' => some (.perl .digit true, r)
    | 's' => some (.perl .blank false, r)
    | 'S' => some (.perl .blank true, r)
    | 'w' => some (.perl .word false, r)
    | 'W' => some (.perl .word true, r)
    | 'A' => some (.anchor .textStart, r)
    | 'z' => some (.anchor .textFinish, r)
    | 'b' => (wordEdge? extended r).map fun (a, r) => (.anchor a, r)
    | 'B' => some (.anchor .notWordEdge, r)
    | '<' => some (.anchor .wordStart, r)
    | '>' => some (.anchor .wordFinish, r)
    | c =>
      if isEscapable c then some (literal c, r)
      else (controlEscape? c).map fun c => (literal c, r)

def flag? : Char → Option Flag
  | 'i' => some .ignoreCase
  | 'm' => some .multiLine
  | 's' => some .dotAll
  | 'U' => some .swapGreed
  | 'u' => some .unicode
  | 'R' => some .returnLines
  | 'x' => some .extended
  | _ => none

/-- Flags up to a colon or closing parenthesis; one minus turns the flags behind it off and must
have some. -/
def flags? (changes : FlagChanges) (negated dangling : Bool) :
    List Char → Option ((FlagChanges × Char) × List Char)
  | [] => none
  | c :: r =>
    if c = ':' || c = ')' then if dangling then none else some ((changes, c), r)
    else if c = '-' then if negated then none else flags? changes true true r
    else
      match flag? c with
      | none => none
      | some f =>
        if (changes.lookup f).isSome then none
        else flags? (changes ++ [(f, !negated)]) negated false r

def posixSet? (name : String) : Option CharSet :=
  match name with
  | "alnum" => some ⟨[(48, 57), (65, 90), (97, 122)]⟩
  | "alpha" => some ⟨[(65, 90), (97, 122)]⟩
  | "ascii" => some ⟨[(0, 127)]⟩
  | "blank" => some ⟨[(9, 9), (32, 32)]⟩
  | "cntrl" => some ⟨[(0, 31), (127, 127)]⟩
  | "digit" => some ⟨[(48, 57)]⟩
  | "graph" => some ⟨[(33, 126)]⟩
  | "lower" => some ⟨[(97, 122)]⟩
  | "print" => some ⟨[(32, 126)]⟩
  | "punct" => some ⟨[(33, 47), (58, 64), (91, 96), (123, 126)]⟩
  | "space" => some ⟨[(9, 13), (32, 32)]⟩
  | "upper" => some ⟨[(65, 90)]⟩
  | "word" => some ⟨[(48, 57), (65, 90), (95, 95), (97, 122)]⟩
  | "xdigit" => some ⟨[(48, 57), (65, 70), (97, 102)]⟩
  | _ => none

/-- A named ASCII class behind its opening bracket; what is none is read as a class of its own. -/
def posixClass? (s : List Char) : Option (SetTerm × List Char) :=
  match s with
  | ':' :: r =>
    let (negated, r) := match r with
      | '^' :: r => (true, r)
      | r => (false, r)
    match r.dropWhile (· != ':') with
    | ':' :: ']' :: rest =>
      (posixSet? (String.ofList (r.takeWhile (· != ':')))).map fun set =>
        (.posix set negated, rest)
    | _ => none
  | _ => none

/-- The letters that Unicode 17 adds; names of groups may hold them. -/
def laterLetters : CharSet := .ofTable
  "88F C5C CDC A7CE-A7CF A7D2 A7D4 A7F1 10940-10959 10EC5-10EC7 10EFA-10EFB 11B60-11B67
    11DB0-11DDB 16EA0-16EB8 16EBB-16ED3 16FF2-16FF6 187F8-187FF 18D09-18D1E 18D80-18DF2
    1E6C0-1E6DE 1E6E0-1E6F5 1E6FE-1E6FF 2B73A-2B73F 2CEA2-2CEAD 323B0-33479"

def laterNumbers : CharSet := ⟨[(0x11DE0, 0x11DE9)]⟩

def groupName? (s : List Char) : Option (String × List Char) :=
  let letters := ((CharSet.property? "alphabetic").getD .empty).union laterLetters
  let numbers := ((CharSet.category? "n").getD .empty).union laterNumbers
  let isLetter (c : Char) : Bool := c = '_' || letters.contains c
  let isOther (c : Char) : Bool := numbers.contains c || c = '.' || c = '[' || c = ']'
  match s.takeWhile (· != '>'), s.dropWhile (· != '>') with
  | c :: cs, '>' :: r =>
    if isLetter c && cs.all (fun c => isLetter c || isOther c) then
      some (String.ofList (c :: cs), r)
    else none
  | _, _ => none

end TableAudit.Pattern
