import TableAudit.Pattern.ByteRange
import Std.Data.HashMap

/-! The states that an automaton over bytes needs for texts and sets. Only their number and the room
for their links count. A state takes 32 bytes; a link takes 8 more where a state chooses by the
byte, and 4 more where it may go on to several others. -/
namespace TableAudit.Pattern

structure Automaton where
  states : Nat
  links : Nat

namespace Automaton

def size (a : Automaton) : Nat := 32 * a.states + a.links

def addState (a : Automaton) : Automaton := { a with states := a.states + 1 }

def addChoice (a : Automaton) (n : Nat) : Automaton := ⟨a.states + 1, a.links + 8 * n⟩

def branch (a : Automaton) (n : Nat) : Automaton := { a with links := a.links + 4 * n }

structure Link where
  bytes : ByteRange
  target : Nat
deriving DecidableEq

def mix (ns : List Nat) : UInt64 :=
  ns.foldl (fun h n => (h ^^^ UInt64.ofNat n) * 1099511628211) 14695981039346656037

/-- States that may be used again. A slot remembers only the last state put into it, so that a state
may be made twice. -/
abbrev Memory (α : Type) := Std.HashMap Nat (α × Nat)

def reuse {α : Type} [DecidableEq α] (slot : Nat) (key : α) (make : Automaton → Automaton)
    (a : Automaton) (m : Memory α) : Nat × Automaton × Memory α :=
  let fresh := (a.states, make a, m.insert slot (key, a.states))
  match m[slot]? with
  | some (k, id) => if k = key then (id, a, m) else fresh
  | none => fresh

def choiceState (links : List Link) (a : Automaton) (m : Memory (List Link)) :
    Nat × Automaton × Memory (List Link) :=
  let mixed := mix (links.flatMap fun l => [l.bytes.first, l.bytes.last, l.target])
  reuse (mixed % 10000).toNat links (fun a => a.addChoice links.length) a m

structure OpenChoice where
  links : List Link
  next : Option ByteRange

def OpenChoice.close (o : OpenChoice) (target : Nat) : List Link :=
  match o.next with
  | some r => ⟨r, target⟩ :: o.links
  | none => o.links

/-- Makes the states of open choices, each of which leads to the one behind it and the last of which
leads to `final`; answers with the first. -/
def closeAll (final : Nat) :
    List OpenChoice → Automaton → Memory (List Link) → Nat × Automaton × Memory (List Link)
  | [], a, m => (final, a, m)
  | o :: rest, a, m =>
    let (target, a, m) := closeAll final rest a m
    choiceState (o.close target).reverse a m

/-- Adds a sequence behind smaller ones: it keeps to the open choices as far as it begins like the
sequence before it. -/
def addSequence (final : Nat) :
    List ByteRange → List OpenChoice → Automaton → Memory (List Link) →
      List OpenChoice × Automaton × Memory (List Link)
  | r :: rs, o :: rest, a, m =>
    if o.next = some r then
      let (rest, a, m) := addSequence final rs rest a m
      (o :: rest, a, m)
    else
      let (target, a, m) := closeAll final rest a m
      (⟨o.close target, some r⟩ :: rs.map fun r => ⟨[], some r⟩, a, m)
  | _, path, a, m => (path, a, m)

def addForward (s : CharSet) (a : Automaton) : Automaton :=
  let final := a.states
  let (path, a, m) := (ByteRange.sequences s).foldl
    (fun (path, a, m) rs => addSequence final rs path a m) ([⟨[], none⟩], a.addState, ∅)
  (closeAll final path a m).2.1

def addBackSequence : List ByteRange → Nat → Automaton → Memory (Nat × ByteRange) →
    Automaton × Memory (Nat × ByteRange)
  | [], _, a, m => (a, m)
  | r :: rs, target, a, m =>
    let slot := (mix [target, r.first, r.last] % 1000).toNat
    let (id, a, m) := reuse slot (target, r) addState a m
    addBackSequence rs id a m

/-- The states of a set read backward. Sequences share the states of their first bytes, and a
branching state leads to the last byte of each. -/
def addBackward (s : CharSet) (a : Automaton) : Automaton :=
  let final := a.states + 1
  ((ByteRange.sequences s).foldl (fun (a, m) rs => addBackSequence rs final (a.branch 1) m)
    (a.addState.addState, ∅)).1

def addSet (back : Bool) (s : CharSet) (a : Automaton) : Automaton :=
  if s.ranges.all fun r => r.2 < 0x80 then a.addState.addChoice s.ranges.length
  else if back then a.addBackward s
  else a.addForward s

def runs : List (List Nat) → List (List (List Nat))
  | [] => [[]]
  | [] :: ts => [] :: runs ts
  | t :: ts =>
    match runs ts with
    | r :: rs => (t :: r) :: rs
    | [] => [[t]]

/-- The states of a tree of texts up to a number of bytes deep, in which texts share their fronts. A
tree whose texts all end takes none. Where a text ends, those after it get a choice of their own,
so that earlier texts are preferred. -/
def addTree : Nat → List (List Nat) → Automaton → Automaton
  | 0, _, a => a
  | depth + 1, ts, a =>
    if ts.all (·.isEmpty) then a
    else
      let ts := match ts with
        | [] :: ts => [] :: ts.dropWhile (·.isEmpty)
        | ts => ts
      let choices := runs ts
      choices.foldl
        (fun a run =>
          let firsts := (run.filterMap List.head?).eraseDups
          let a := firsts.foldl
            (fun a b => addTree depth ((run.filter fun t => t.head? = some b).map List.tail) a) a
          match firsts.length with
          | 0 => a
          | 1 => a.addState.branch 1
          | n => (a.addChoice n).branch 1)
        (a.addState.branch (choices.length - 1))

def addTexts (back : Bool) (texts : List (List Char)) (a : Automaton) : Automaton :=
  let bytes := texts.map fun cs => cs.flatMap fun c => ByteRange.codeBytes c.toNat
  let bytes := if back then bytes.map List.reverse else bytes
  addTree ((bytes.map List.length).foldl max 0 + 1) bytes a.addState

end Automaton
end TableAudit.Pattern
