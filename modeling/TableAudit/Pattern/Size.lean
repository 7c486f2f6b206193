import TableAudit.Pattern.Automaton
import TableAudit.Pattern.Meaning
import TableAudit.Pattern.Parser

/-! The limit on the size of patterns. A pattern is built as two automata: one that reads forward
and keeps its groups, and one that reads backward and does not. Each must stay within the limit. -/
namespace TableAudit.Pattern

def sizeLimit : Nat := 10 * Nat.pow 2 20

/-- An automaton so far, and whether its last state is one that branches: such a state takes another
link to go on, where others have room for it. -/
structure Progress where
  automaton : Automaton
  branching : Bool

abbrev Construction := Automaton → Option Progress

def Progress.goOn (b : Progress) : Automaton :=
  if b.branching then b.automaton.branch 1 else b.automaton

namespace Construction

def plain (add : Automaton → Automaton) : Construction := fun a => some ⟨add a, false⟩

def again (step : Construction) : Nat → Progress → Option Progress
  | 0, b => some b
  | n + 1, b =>
    let a := b.goOn
    if sizeLimit < a.size then none
    else
      match step a with
      | none => none
      | some b => again step n b

def exactly (part : Construction) : Nat → Construction
  | 0, a => some ⟨a.addState, false⟩
  | n + 1, a => (part a).bind (again part n)

def optional (part : Construction) : Construction := fun a => do
  let b ← part (a.addState.branch 2)
  return ⟨b.goOn.addState, false⟩

def bounded (part : Construction) (least extra : Nat) : Construction := fun a => do
  let b ← exactly part least a
  let b ← again (fun a => part (a.addState.branch 2)) extra ⟨b.automaton.addState, b.branching⟩
  return ⟨b.goOn, false⟩

/-- At least `least` times: a branching state behind the last part leads back to its start. One in
front of a `solid` part, which matches no empty text, also lets it be left out; any other part is
taken once or more behind a state that leads past it. -/
def endless (part : Construction) (solid : Bool) (least : Nat) : Construction := fun a =>
  match least with
  | 0 =>
    if solid then do
      let b ← part (a.addState.branch 1)
      return ⟨b.goOn, true⟩
    else do
      let b ← part a
      return ⟨((b.goOn.addState.branch 2).addState.branch 2).addState, false⟩
  | n + 1 => do
    let a ← if n = 0 then some a else (exactly part n a).map Progress.goOn
    let b ← part a
    return ⟨b.goOn.addState.branch 1, true⟩

end Construction

namespace Shape

def texts? (ps : List Shape) : Option (List (List Char)) :=
  ps.mapM fun
    | .text cs => some cs
    | _ => none

mutual

/-- The construction of a shape, for reading forward or backward. -/
def construct (back : Bool) : Shape → Construction
  | .empty => .plain Automaton.addState
  | .text cs => .plain fun a =>
    { a with states := a.states + (cs.map fun c => (ByteRange.codeBytes c.toNat).length).sum }
  | .chars s _ => .plain (Automaton.addSet back s)
  | .look _ => .plain Automaton.addState
  | .times p least most _ =>
    match most with
    | none => .endless (p.construct back) (!p.hasEmptySet && p.takesText) least
    | some most =>
      if least = most then .exactly (p.construct back) least
      else if least = 0 ∧ most = 1 then .optional (p.construct back)
      else .bounded (p.construct back) least (most - least)
  | .group p => fun a =>
    if back then p.construct back a
    else do
      let b ← p.construct back a.addState
      return ⟨b.goOn.addState, false⟩
  | .seq ps => constructSeq back ps
  | .choice ps =>
    match texts? ps with
    | some texts => .plain (Automaton.addTexts back texts)
    | none => fun a => do return ⟨← constructChoice back 0 ps a, false⟩

def constructSeq (back : Bool) : List Shape → Construction
  | [] => .plain Automaton.addState
  | [p] => p.construct back
  | p :: ps => fun a =>
    if back then do
      let b ← constructSeq back ps a
      p.construct back b.goOn
    else do
      let b ← p.construct back a
      constructSeq back ps b.goOn

def constructChoice (back : Bool) (done : Nat) : List Shape → Automaton → Option Automaton
  | [], a => some a
  | p :: ps, a => do
    let b ← p.construct back a
    let a := b.goOn.branch 1
    constructChoice back (done + 1) ps (if done = 1 then a.addState.addState else a)

end

/-- The size of the automaton of a shape. Unless every match begins (read backward: ends) with the
text, a loop over any byte stands in front. The whole match is a group. -/
def size? (back : Bool) (p : Shape) : Option Nat := do
  let bound := if back then p.endsWith .finish else p.beginsWith .start
  let start : Automaton := ⟨0, 0⟩
  let front := if bound then start.addState else ((start.addState.branch 2).addState.addChoice 1)
  let b ← Shape.construct back (.group p) front
  return b.goOn.addState.size

/-- Whether a shape is a choice of so many texts that no automaton is built for it. -/
def isWordList : Shape → Bool
  | .choice ps => (texts? ps).isSome && 3000 ≤ ps.length
  | _ => false

def fits (p : Shape) : Bool :=
  p.isWordList || [false, true].all fun back => (p.size? back).any (· ≤ sizeLimit)

end Shape

def ofText? (text : String) : Option Pattern := do
  let t ← Term.ofText? text.toList
  let (p, _) ← t.shape? .initial
  if p.fits then return p.pattern else none

end TableAudit.Pattern
