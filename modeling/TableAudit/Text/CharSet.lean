/-! Sets of characters as ascending ranges of code points. -/
namespace TableAudit

/-- The characters whose code points lie in one of the ranges, both ends included. -/
structure CharSet where
  ranges : List (Nat × Nat)
deriving DecidableEq

namespace CharSet

def contains (s : CharSet) (c : Char) : Bool :=
  s.ranges.any fun r => r.1 ≤ c.toNat && c.toNat ≤ r.2

def empty : CharSet := ⟨[]⟩

def lastCode : Nat := 0x10FFFF

def all : CharSet := ⟨[(0, lastCode)]⟩

def single (c : Char) : CharSet := ⟨[(c.toNat, c.toNat)]⟩

def range (first last : Nat) : CharSet := ⟨[(first, last)]⟩

def join (r : Nat × Nat) : List (Nat × Nat) → List (Nat × Nat)
  | [] => [r]
  | s :: rest => if s.1 ≤ r.2 + 1 then join (r.1, max r.2 s.2) rest else r :: s :: rest

def ofRanges (rs : List (Nat × Nat)) : CharSet :=
  ⟨(rs.mergeSort fun a b => a.1 ≤ b.1).foldr join []⟩

def union (s t : CharSet) : CharSet := ofRanges (s.ranges ++ t.ranges)

def gaps (start : Nat) : List (Nat × Nat) → List (Nat × Nat)
  | [] => if start ≤ lastCode then [(start, lastCode)] else []
  | r :: rest => if start < r.1 then (start, r.1 - 1) :: gaps (r.2 + 1) rest else gaps (r.2 + 1) rest

def complement (s : CharSet) : CharSet := ⟨gaps 0 s.ranges⟩

def inter (s t : CharSet) : CharSet := (s.complement.union t.complement).complement

def diff (s t : CharSet) : CharSet := s.inter t.complement

def symmDiff (s t : CharSet) : CharSet := (s.union t).diff (s.inter t)

def unionAll (ss : List CharSet) : CharSet := ofRanges (ss.flatMap (·.ranges))

/-- The set without the code points that are halves of characters. -/
def withoutSurrogates (s : CharSet) : CharSet :=
  ⟨s.ranges.flatMap fun (a, b) =>
    [(a, min b 0xD7FF), (max a 0xE000, b)].filter fun (a, b) => a ≤ b⟩

def hexValue (cs : List Char) : Nat :=
  cs.foldl (fun n c => 16 * n + if c.isDigit then c.toNat - 48 else c.toNat - 55) 0

/-- The set written as ascending hexadecimal code points and ranges `first-last` on lines of entries
with blanks between them. -/
def ofTable (table : String) : CharSet :=
  ⟨((table.split fun c => c = ' ' || c = '\n').toList.filter (!·.isEmpty)).map fun entry =>
    match (entry.split '-').toList.map fun part => hexValue part.copy.toList with
    | [a, b] => (a, b)
    | a :: _ => (a, a)
    | [] => (0, 0)⟩

end CharSet
end TableAudit
