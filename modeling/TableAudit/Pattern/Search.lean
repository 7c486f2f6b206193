import TableAudit.Pattern.Basic

/-! The search for a pattern in a text. A set of positions is a list of marks, one for each position
of the text; a pattern carries the positions where a match may begin to those where it may end. -/
namespace TableAudit.Pattern

def contexts (before : Option Char) : List Char → List (Option Char × Option Char)
  | [] => [(before, none)]
  | c :: r => (before, some c) :: contexts (some c) r

def union (a b : List Bool) : List Bool := List.zipWith (· || ·) a b

def minus (a b : List Bool) : List Bool := List.zipWith (fun x y => x && !y) a b

def advance (s : CharSet) (t : List Char) (marks : List Bool) : List Bool :=
  false :: List.zipWith (fun m c => m && s.contains c) marks t

def iterate (step : List Bool → List Bool) : Nat → List Bool → List Bool
  | 0, marks => marks
  | n + 1, marks => if marks.any id then iterate step n (step marks) else marks

/-- The marks after at most `n` steps; `fresh` are the ones that the last step added. -/
def spread (step : List Bool → List Bool) : Nat → List Bool → List Bool → List Bool
  | 0, _, marks => marks
  | n + 1, fresh, marks =>
    if fresh.any id then
      let next := minus (step fresh) marks
      spread step n next (union marks next)
    else marks

/-- Where matches end that begin at the marked positions. A repetition without an upper bound
reaches nothing new after as many steps as there are positions. -/
def ends (t : List Char) : Pattern → List Bool → List Bool
  | .empty, marks => marks
  | .chars s, marks => advance s t marks
  | .look l, marks =>
    List.zipWith (fun m (c : Option Char × Option Char) => m && l.holds c.1 c.2) marks
      (contexts none t)
  | .seq p q, marks => ends t q (ends t p marks)
  | .alt p q, marks => union (ends t p marks) (ends t q marks)
  | .times p least most, marks =>
    let start := iterate (ends t p) least marks
    let extra := match most with
      | some n => n - least
      | none => t.length + 1
    spread (ends t p) extra start start
  | .group p, marks => ends t p marks

def occursIn (p : Pattern) (t : List Char) : Bool :=
  (ends t p (List.replicate (t.length + 1) true)).any id

end TableAudit.Pattern
