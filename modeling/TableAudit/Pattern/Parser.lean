import TableAudit.Pattern.Lexical

/-! Reading written patterns. Open groups and classes are kept on a stack, and each step takes at
least one character, so reading ends with the text. -/
namespace TableAudit.Pattern

/-- A rest that is shorter than the text it was read from; one that is not is refused. -/
def shorter? (s r : List Char) : Option { r : List Char // r.length < s.length } :=
  if h : r.length < s.length then some ⟨r, h⟩ else none

/-- What is still open inside a class: a class with the items before it, last first, or an operation
with its left side. -/
inductive OpenSet where
  | bracket (before : List SetTerm) (negated : Bool)
  | op (o : SetOp) (left : SetTerm)

def unionOf : List SetTerm → SetTerm
  | [s] => s
  | reversed => .union reversed.reverse

def closeOp (right : SetTerm) : List OpenSet → SetTerm × List OpenSet
  | .op o left :: stack => (.op o left right, stack)
  | stack => (right, stack)

/-- The start of a class behind its bracket: a negation, then hyphens or a closing bracket that stand
for themselves. -/
def openSet? (extended : Bool) (s : List Char) : Option ((Bool × List SetTerm) × List Char) :=
  let s := skipSpace extended s
  let (negated, s) := match s with
    | '^' :: r => (true, skipSpace extended r)
    | s => (false, s)
  let (hyphens, s) := takeSpaced extended (· = '-') s
  let literal (c : Char) : SetTerm := .letter ⟨c, false⟩
  match hyphens, s with
  | _, [] => none
  | [], ']' :: r => some ((negated, [literal ']']), skipSpace extended r)
  | hyphens, s => some ((negated, hyphens.map literal), s)

def setItem? (extended : Bool) : List Char → Option (Term × List Char)
  | [] => none
  | '\\' :: r => escape? extended r
  | c :: r => some (.letter ⟨c, false⟩, r)

def SetTerm.ofTerm? : Term → Option SetTerm
  | .letter l => some (.letter l)
  | .perl name negated => some (.perl name negated)
  | .property q negated => some (.property q negated)
  | _ => none

/-- The character that tells whether a hyphen in a class stands for itself. In extended patterns it
is the first behind the hyphen that is neither a blank nor the first number sign; without any it is
the one next to the hyphen. -/
def rangeMark? (extended : Bool) (r : List Char) : Option Char :=
  let ahead := match r.dropWhile Text.isBlank with
    | '#' :: rest => rest.dropWhile Text.isBlank
    | rest => rest
  if extended then ahead.head?.or r.head? else r.head?

def setRange? (extended : Bool) (s : List Char) : Option (SetTerm × List Char) := do
  let (first, r) ← setItem? extended s
  match skipSpace extended r with
  | [] => none
  | '-' :: r' =>
    if rangeMark? extended r' = some ']' ∨ rangeMark? extended r' = some '-' then
      return (← SetTerm.ofTerm? first, '-' :: r')
    else
      let (last, rest) ← setItem? extended (skipSpace extended r')
      match first, last with
      | .letter a, .letter b => if a.char ≤ b.char then return (.range a b, rest) else none
      | _, _ => none
  | r => return (← SetTerm.ofTerm? first, r)

def setBody? (extended : Bool) (stack : List OpenSet) (items : List SetTerm) (s : List Char) :
    Option ((SetTerm × Bool) × List Char) :=
  let operate (o : SetOp) : List OpenSet :=
    let (left, stack) := closeOp (unionOf items) stack
    .op o left :: stack
  match skipSpace extended s with
  | [] => none
  | '[' :: r =>
    match posixClass? r with
    | some (item, r) => do
      let ⟨r, _⟩ ← shorter? s r
      setBody? extended stack (item :: items) r
    | none => do
      let ((negated, start), r) ← openSet? extended r
      let ⟨r, _⟩ ← shorter? s r
      setBody? extended (.bracket items negated :: stack) start r
  | ']' :: r =>
    let (content, stack) := closeOp (unionOf items) stack
    match stack with
    | [.bracket _ negated] => some ((content, negated), r)
    | .bracket before negated :: stack => do
      let ⟨r, _⟩ ← shorter? s r
      setBody? extended stack (.bracket content negated :: before) r
    | _ => none
  | '&' :: '&' :: r => do
    let ⟨r, _⟩ ← shorter? s r
    setBody? extended (operate .inter) [] r
  | '-' :: '-' :: r => do
    let ⟨r, _⟩ ← shorter? s r
    setBody? extended (operate .diff) [] r
  | '~' :: '~' :: r => do
    let ⟨r, _⟩ ← shorter? s r
    setBody? extended (operate .symmDiff) [] r
  | r => do
    let (item, r) ← setRange? extended r
    let ⟨r, _⟩ ← shorter? s r
    setBody? extended stack (item :: items) r
termination_by s.length

def set? (extended : Bool) (s : List Char) : Option (Term × List Char) := do
  let ((negated, start), r) ← openSet? extended s
  let ((content, negated), r) ← setBody? extended [.bracket [] negated] start r
  return (.set content negated, r)

structure Level where
  branches : List Term
  items : List Term

def concatOf : List Term → Term
  | [t] => t
  | reversed => .concat reversed.reverse

def Level.term (l : Level) : Term :=
  match l.branches with
  | [] => concatOf l.items
  | branches => .alt (branches.reverse ++ [concatOf l.items])

def Level.push (l : Level) (t : Term) : Level := { l with items := t :: l.items }

structure OpenGroup where
  outer : Level
  captures : Bool
  changes : FlagChanges
  extended : Bool

structure ReadState where
  stack : List OpenGroup
  level : Level
  extended : Bool
  names : List String

def ReadState.push (st : ReadState) (t : Term) : ReadState := { st with level := st.level.push t }

/-- Puts a repetition on the last item, which must be there and must not be a change of flags. A
question mark behind it only changes which match is preferred. -/
def ReadState.repeatLast? (st : ReadState) (least : Nat) (most : Option Nat) (s : List Char) :
    Option (ReadState × List Char) :=
  let (greedy, r) := match s with
    | '?' :: r => (false, r)
    | r => (true, r)
  match st.level.items with
  | [] | .flags _ :: _ => none
  | t :: before =>
    some ({ st with level := { st.level with items := .times t least most greedy :: before } }, r)

def ReadState.enter (st : ReadState) (captures : Bool) (changes : FlagChanges) : ReadState :=
  { st with
    stack := ⟨st.level, captures, changes, st.extended⟩ :: st.stack
    level := ⟨[], []⟩
    extended := (changes.lookup .extended).getD st.extended }

/-- A group behind its opening parenthesis, or a change of flags; conditions on the text around are
refused, and so are two groups of one name. -/
def ReadState.openGroup? (st : ReadState) (s : List Char) : Option (ReadState × List Char) :=
  let named (r : List Char) : Option (ReadState × List Char) := do
    let (name, r) ← groupName? r
    if name ∈ st.names then none
    else return ({ st with names := name :: st.names }.enter true [], r)
  match skipSpace st.extended s with
  | '?' :: '=' :: _ | '?' :: '!' :: _ | '?' :: '<' :: '=' :: _ | '?' :: '<' :: '!' :: _ => none
  | '?' :: 'P' :: '<' :: r => named r
  | '?' :: '<' :: r => named r
  | '?' :: r => do
    let ((changes, last), r) ← flags? [] false false r
    if last = ':' then return (st.enter false changes, r)
    else if changes.isEmpty then none
    else
      let extended := (changes.lookup .extended).getD st.extended
      return ({ st.push (.flags changes) with extended := extended }, r)
  | r => some (st.enter true [], r)

def ReadState.closeGroup? (st : ReadState) : Option ReadState :=
  match st.stack with
  | [] => none
  | g :: stack => some
    { st with
      stack := stack
      level := g.outer.push (.group g.captures g.changes st.level.term)
      extended := g.extended }

def ReadState.step? (st : ReadState) (c : Char) (r : List Char) : Option (ReadState × List Char) :=
  match c with
  | '(' => st.openGroup? r
  | ')' => st.closeGroup?.map fun st => (st, r)
  | '|' => some ({ st with level := ⟨concatOf st.level.items :: st.level.branches, []⟩ }, r)
  | '[' => (set? st.extended r).map fun (t, r) => (st.push t, r)
  | '?' => st.repeatLast? 0 (some 1) r
  | '*' => st.repeatLast? 0 none r
  | '+' => st.repeatLast? 1 none r
  | '\x7b' => do
    let ((least, most), r) ← bounds? st.extended r
    st.repeatLast? least most r
  | '\\' => (escape? st.extended r).map fun (t, r) => (st.push t, r)
  | '.' => some (st.push .dot, r)
  | '^' => some (st.push (.anchor .lineStart), r)
  | '$' => some (st.push (.anchor .lineFinish), r)
  | c => some (st.push (.letter ⟨c, false⟩), r)

def ReadState.run? (st : ReadState) (s : List Char) : Option Term :=
  match skipSpace st.extended s with
  | [] => if st.stack.isEmpty then some st.level.term else none
  | c :: r => do
    let (st, r) ← st.step? c r
    let ⟨r, _⟩ ← shorter? s r
    st.run? r
termination_by s.length

def nestLimit : Nat := 250

def Term.ofText? (s : List Char) : Option Term :=
  ((ReadState.mk [] ⟨[], []⟩ false []).run? s).filter fun t => t.depth ≤ nestLimit

end TableAudit.Pattern
