import TableAudit.Text.CharSet
import TableAudit.Text.Classes

/-! Patterns for text and what they match. A pattern matches between two positions of a text;
positions count the characters before them. -/
namespace TableAudit

inductive WordPlace where
  | edge
  | noEdge
  | start
  | finish
  /-- Behind no word. -/
  | startHalf
  /-- In front of no word. -/
  | finishHalf
deriving DecidableEq

def WordPlace.holds : WordPlace → Bool → Bool → Bool
  | .edge, before, after => before != after
  | .noEdge, before, after => before == after
  | .start, before, after => !before && after
  | .finish, before, after => before && !after
  | .startHalf, before, _ => !before
  | .finishHalf, _, after => !after

inductive Look where
  | start
  | finish
  | lineStart
  | lineFinish
  | returnLineStart
  | returnLineFinish
  | word (unicode : Bool) (place : WordPlace)
deriving DecidableEq

inductive Pattern where
  | empty
  | chars (s : CharSet)
  | look (l : Look)
  | seq (p q : Pattern)
  | alt (p q : Pattern)
  | times (p : Pattern) (least : Nat) (most : Option Nat)
  | group (p : Pattern)

def Look.holds : Look → Option Char → Option Char → Bool
  | .start, before, _ => before.isNone
  | .finish, _, after => after.isNone
  | .lineStart, before, _ => before.isNone || before = some '\n'
  | .lineFinish, _, after => after.isNone || after = some '\n'
  | .returnLineStart, before, after =>
    before.isNone || before = some '\n' || (before = some '\r' && after != some '\n')
  | .returnLineFinish, before, after =>
    after.isNone || after = some '\r' || (after = some '\n' && before != some '\r')
  | .word unicode place, before, after =>
    let inWord := (CharSet.wordChars unicode).contains
    place.holds (before.any inWord) (after.any inWord)

namespace Pattern

def before? (t : List Char) (i : Nat) : Option Char := if i = 0 then none else t[i - 1]?

/-- A pattern matches the text between two positions. -/
inductive Matches (t : List Char) : Pattern → Nat → Nat → Prop
  | empty {i} : i ≤ t.length → Matches t .empty i i
  | chars {s c i} : t[i]? = some c → s.contains c = true → Matches t (.chars s) i (i + 1)
  | look {l i} : i ≤ t.length → l.holds (before? t i) t[i]? = true → Matches t (.look l) i i
  | seq {p q i j k} : Matches t p i j → Matches t q j k → Matches t (.seq p q) i k
  | left {p q i j} : Matches t p i j → Matches t (.alt p q) i j
  | right {p q i j} : Matches t q i j → Matches t (.alt p q) i j
  | done {p most i} : i ≤ t.length → Matches t (.times p 0 most) i i
  | more {p least most i j k} : most ≠ some 0 → Matches t p i j →
      Matches t (.times p (least - 1) (most.map (· - 1))) j k → Matches t (.times p least most) i k
  | group {p i j} : Matches t p i j → Matches t (.group p) i j

/-- A pattern occurs in a text if it matches between some two positions. -/
def Occurs (p : Pattern) (t : List Char) : Prop := ∃ i j, Matches t p i j

def char (c : Char) : Pattern := .chars (.single c)

def optional (p : Pattern) : Pattern := .times p 0 (some 1)

def many (p : Pattern) : Pattern := .times p 1 none

def exactly (p : Pattern) (n : Nat) : Pattern := .times p n (some n)

def between (p : Pattern) (m n : Nat) : Pattern := .times p m (some n)

def seqAll : List Pattern → Pattern
  | [] => .empty
  | [p] => p
  | p :: ps => .seq p (seqAll ps)

def whole (ps : List Pattern) : Pattern := seqAll (.look .start :: ps ++ [.look .finish])

def digit : Pattern := .chars .decimalDigits

def blank : Pattern := .chars .blanks

end Pattern
end TableAudit
