import TableAudit.Text.CharSet

/-! Written patterns as trees, before their options are applied. -/
namespace TableAudit.Pattern

inductive Flag where
  | ignoreCase
  | multiLine
  | dotAll
  | swapGreed
  | unicode
  | returnLines
  | extended
deriving DecidableEq

abbrev FlagChanges := List (Flag × Bool)

inductive Anchor where
  | lineStart
  | lineFinish
  | textStart
  | textFinish
  | wordEdge
  | notWordEdge
  | wordStart
  | wordFinish
  | wordStartHalf
  | wordFinishHalf

inductive ClassName where
  | digit
  | blank
  | word

/-- A literal character; one written as `\x` with two digits may stand for a byte. -/
structure Letter where
  char : Char
  asByte : Bool

inductive PropertyQuery where
  | named (name : String)
  | valued (property value : String)

inductive SetOp where
  | inter
  | diff
  | symmDiff

inductive SetTerm where
  | letter (l : Letter)
  | range (first last : Letter)
  | posix (s : CharSet) (negated : Bool)
  | perl (name : ClassName) (negated : Bool)
  | property (q : PropertyQuery) (negated : Bool)
  | bracket (s : SetTerm) (negated : Bool)
  | union (ss : List SetTerm)
  | op (o : SetOp) (s t : SetTerm)

inductive Term where
  | flags (changes : FlagChanges)
  | letter (l : Letter)
  | dot
  | anchor (a : Anchor)
  | perl (name : ClassName) (negated : Bool)
  | property (q : PropertyQuery) (negated : Bool)
  | set (s : SetTerm) (negated : Bool)
  | times (t : Term) (least : Nat) (most : Option Nat) (greedy : Bool)
  | group (captures : Bool) (changes : FlagChanges) (t : Term)
  | alt (ts : List Term)
  | concat (ts : List Term)

mutual

def SetTerm.depth : SetTerm → Nat
  | .bracket s _ => s.depth + 1
  | .union [] => 0
  | .union ss => SetTerm.depths ss + 1
  | .op _ s t => max s.depth t.depth + 1
  | _ => 0

def SetTerm.depths : List SetTerm → Nat
  | [] => 0
  | s :: ss => max s.depth (SetTerm.depths ss)

end

mutual

def Term.depth : Term → Nat
  | .set s _ => s.depth + 1
  | .times t _ _ _ => t.depth + 1
  | .group _ _ t => t.depth + 1
  | .alt ts => Term.depths ts + 1
  | .concat [] => 0
  | .concat ts => Term.depths ts + 1
  | _ => 0

def Term.depths : List Term → Nat
  | [] => 0
  | t :: ts => max t.depth (Term.depths ts)

end

end TableAudit.Pattern
