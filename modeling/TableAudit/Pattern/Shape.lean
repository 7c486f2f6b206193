import TableAudit.Pattern.Basic

/-! Patterns in a simple form. Characters in a row are one text, sequences and choices are flat,
choices of single characters are sets, and alternatives that begin alike share their front. What a
shape matches is given by its pattern; its size is that of the automaton built from it. -/
namespace TableAudit.Pattern

inductive Shape where
  | empty
  | text (cs : List Char)
  | chars (s : CharSet) (unicode : Bool)
  | look (l : Look)
  | times (p : Shape) (least : Nat) (most : Option Nat) (greedy : Bool)
  | group (p : Shape)
  | seq (ps : List Shape)
  | choice (ps : List Shape)

namespace Shape

def ofSet (unicode : Bool) (s : CharSet) : Shape :=
  let s := CharSet.ofRanges s.withoutSurrogates.ranges
  match s.ranges with
  | [(a, b)] => if a = b then .text [Char.ofNat a] else .chars s unicode
  | _ => .chars s unicode

mutual

def emptyOnly : Shape → Bool
  | .empty => true
  | .text _ => false
  | .chars _ _ => false
  | .look _ => true
  | .times p _ most _ => most.isSome && p.emptyOnly
  | .group p => p.emptyOnly
  | .seq ps => allEmptyOnly ps
  | .choice ps => allEmptyOnly ps

def allEmptyOnly : List Shape → Bool
  | [] => true
  | p :: ps => p.emptyOnly && allEmptyOnly ps

end

mutual

def hasEmptySet : Shape → Bool
  | .chars s _ => s.ranges.isEmpty
  | .times p _ _ _ => p.hasEmptySet
  | .group p => p.hasEmptySet
  | .seq ps => anyEmptySet ps
  | .choice ps => anyEmptySet ps
  | _ => false

def anyEmptySet : List Shape → Bool
  | [] => false
  | p :: ps => p.hasEmptySet || anyEmptySet ps

end

mutual

def takesText : Shape → Bool
  | .text _ => true
  | .chars _ _ => true
  | .times p least _ _ => 0 < least && p.takesText
  | .group p => p.takesText
  | .seq ps => anyTakesText ps
  | .choice ps => allTakeText ps
  | _ => false

def anyTakesText : List Shape → Bool
  | [] => false
  | p :: ps => p.takesText || anyTakesText ps

def allTakeText : List Shape → Bool
  | [] => true
  | p :: ps => p.takesText && allTakeText ps

end

mutual

/-- Whether every match begins where the text does: `l` is the condition for that. -/
def beginsWith (l : Look) : Shape → Bool
  | .look m => l = m
  | .times p least _ _ => 0 < least && p.beginsWith l
  | .group p => p.beginsWith l
  | .seq ps => frontBeginsWith l ps
  | .choice ps => allBeginWith l ps
  | _ => false

def frontBeginsWith (l : Look) : List Shape → Bool
  | [] => false
  | p :: ps => p.beginsWith l || (p.emptyOnly && frontBeginsWith l ps)

def allBeginWith (l : Look) : List Shape → Bool
  | [] => true
  | p :: ps => p.beginsWith l && allBeginWith l ps

end

mutual

def endsWith (l : Look) : Shape → Bool
  | .look m => l = m
  | .times p least _ _ => 0 < least && p.endsWith l
  | .group p => p.endsWith l
  | .seq ps => backEndsWith l ps
  | .choice ps => allEndWith l ps
  | _ => false

def backEndsWith (l : Look) : List Shape → Bool
  | [] => false
  | p :: ps => backEndsWith l ps || (allEmptyOnly ps && p.endsWith l)

def allEndWith (l : Look) : List Shape → Bool
  | [] => true
  | p :: ps => p.endsWith l && allEndWith l ps

end

mutual

/-- Whether two shapes are written alike. A group is known by its place and is like no other. -/
def same : Shape → Shape → Bool
  | .empty, .empty => true
  | .text cs, .text ds => cs = ds
  | .chars s u, .chars t v => s = t && u = v
  | .look l, .look m => l = m
  | .times p a m g, .times q b n h => p.same q && a = b && m = n && g = h
  | .seq ps, .seq qs => sameAll ps qs
  | .choice ps, .choice qs => sameAll ps qs
  | _, _ => false

def sameAll : List Shape → List Shape → Bool
  | [], [] => true
  | p :: ps, q :: qs => p.same q && sameAll ps qs
  | _, _ => false

end

mutual

def weight : Shape → Nat
  | .times p _ _ _ => p.weight + 1
  | .group p => p.weight + 1
  | .seq ps => weights ps + 1
  | .choice ps => weights ps + 1
  | _ => 1

def weights : List Shape → Nat
  | [] => 0
  | p :: ps => p.weight + weights ps

end

def parts : Shape → List Shape
  | .empty => []
  | .seq ps => ps
  | p => [p]

def glue (p : Shape) (rest : List Shape) : List Shape :=
  match p, rest with
  | .text cs, .text ds :: rest => .text (cs ++ ds) :: rest
  | p, rest => p :: rest

def ofSeq (ps : List Shape) : Shape :=
  match (ps.flatMap parts).foldr glue [] with
  | [] => .empty
  | [p] => p
  | ps => .seq ps

/-- A repetition; what matches the empty text only need not be matched more than once. -/
def repeated (p : Shape) (least : Nat) (most : Option Nat) (greedy : Bool) : Shape :=
  let (least, most) := if p.emptyOnly then (min least 1, some (min (most.getD 1) 1))
    else (least, most)
  if most = some 0 then .empty
  else if least = 1 ∧ most = some 1 then p
  else .times p least most greedy

def alternatives : Shape → List Shape
  | .choice ps => ps
  | p => [p]

def setOf? (ps : List Shape) : Option CharSet :=
  let single? : Shape → Option CharSet
    | .text [c] => some (.single c)
    | _ => none
  let set? : Shape → Option CharSet
    | .chars s _ => some s
    | _ => none
  ((ps.mapM single?).or (ps.mapM set?)).map CharSet.unionAll

def commonFront : List Shape → List Shape → List Shape
  | p :: ps, q :: qs => if p.same q then p :: commonFront ps qs else []
  | _, _ => []

def sharedFront (ps : List Shape) : List Shape :=
  let seq? : Shape → Option (List Shape)
    | .seq ps => some ps
    | _ => none
  match ps.mapM seq? with
  | some (first :: rest) => rest.foldl commonFront first
  | _ => []

/-- A choice. Without a front that they share the alternatives are lighter, so that `room` need not
be more than their weight. -/
def ofAlternatives (room : Nat) (ps : List Shape) : Shape :=
  match ps.flatMap alternatives with
  | [p] => p
  | ps =>
    match setOf? ps, sharedFront ps, room with
    | some s, _, _ => ofSet true s
    | none, p :: front, room + 1 =>
      let rest := ps.map fun q => ofSeq (q.parts.drop (front.length + 1))
      ofSeq (p :: front ++ [ofAlternatives room rest])
    | none, _, _ => .choice ps

def ofChoice (ps : List Shape) : Shape := ofAlternatives (weights ps) ps

mutual

def pattern : Shape → Pattern
  | .empty => .empty
  | .text cs => seqAll (cs.map char)
  | .chars s _ => .chars s
  | .look l => .look l
  | .times p least most _ => .times p.pattern least most
  | .group p => .group p.pattern
  | .seq ps => sequence ps
  | .choice ps => branches ps

def sequence : List Shape → Pattern
  | [] => .empty
  | [p] => p.pattern
  | p :: ps => .seq p.pattern (sequence ps)

def branches : List Shape → Pattern
  | [] => .chars .empty
  | [p] => p.pattern
  | p :: ps => .alt p.pattern (branches ps)

end

end Shape
end TableAudit.Pattern
