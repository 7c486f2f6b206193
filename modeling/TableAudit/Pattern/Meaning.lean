import TableAudit.Pattern.Shape
import TableAudit.Pattern.Term

/-! The shapes of written patterns. Flags hold from where they are set to the end of their group.
With `unicode` off, classes hold ASCII characters only, and what would match half a character is
refused. -/
namespace TableAudit.Pattern

structure Flags where
  ignoreCase : Bool
  multiLine : Bool
  dotAll : Bool
  swapGreed : Bool
  unicode : Bool
  returnLines : Bool

def Flags.initial : Flags := ⟨false, false, false, false, true, false⟩

def Flags.change (fl : Flags) (changes : FlagChanges) : Flags :=
  let now (f : Flag) (old : Bool) : Bool := (changes.lookup f).getD old
  ⟨now .ignoreCase fl.ignoreCase, now .multiLine fl.multiLine, now .dotAll fl.dotAll,
    now .swapGreed fl.swapGreed, now .unicode fl.unicode, now .returnLines fl.returnLines⟩

def isAscii (s : CharSet) : Bool := s.ranges.all fun r => r.2 < 128

def fold (fl : Flags) (s : CharSet) : CharSet :=
  if fl.ignoreCase then if fl.unicode then s.foldCase else s.foldAsciiCase else s

/-- A class with its cases folded and then negated; without `unicode` it must stay within ASCII. -/
def settle? (fl : Flags) (negated : Bool) (s : CharSet) : Option CharSet :=
  let s := fold fl s
  let s := if negated then s.complement else s
  if fl.unicode || isAscii s then some s else none

def classSet? (fl : Flags) (name : ClassName) (negated : Bool) : Option CharSet :=
  let s := match name, fl.unicode with
    | .digit, true => CharSet.decimalDigits
    | .digit, false => ⟨[(48, 57)]⟩
    | .blank, true => CharSet.blanks
    | .blank, false => ⟨[(9, 13), (32, 32)]⟩
    | .word, unicode => CharSet.wordChars unicode
  if !negated then some s else if fl.unicode then some s.complement else none

/-- Property names and values are compared in lower case without blanks, hyphens, underscores and a
leading `is`. -/
def plainName (name : String) : String :=
  let body := match name.toList with
    | 'i' :: 's' :: r | 'i' :: 'S' :: r | 'I' :: 's' :: r | 'I' :: 'S' :: r => (true, r)
    | r => (false, r)
  let letters := (body.2.filter fun c =>
    c.toNat < 128 && c != ' ' && c != '_' && c != '-').map Char.toLower
  if body.1 && letters = ['c'] then "isc" else String.ofList letters

/-- The characters that a query asks for. The names `cf`, `sc` and `lc` alone are categories. -/
def querySet? : PropertyQuery → Option CharSet
  | .named name =>
    let name := plainName name
    let asProperty := if name = "cf" ∨ name = "sc" ∨ name = "lc" then none else CharSet.property? name
    (asProperty.orElse fun _ => CharSet.category? name).orElse fun _ => CharSet.script? name
  | .valued property value => CharSet.value? (plainName property) (plainName value)

def propertySet? (fl : Flags) (q : PropertyQuery) (negated : Bool) : Option CharSet := do
  if fl.unicode then settle? fl negated (← querySet? q) else none

def letterAllowed (fl : Flags) (l : Letter) : Bool := fl.unicode || l.char.toNat < 128

mutual

def SetTerm.meaning? (fl : Flags) : SetTerm → Option CharSet
  | .letter l => if letterAllowed fl l then some (.single l.char) else none
  | .range a b =>
    if letterAllowed fl a && letterAllowed fl b then some (.range a.char.toNat b.char.toNat) else none
  | .posix s negated => settle? fl negated s
  | .perl name negated => classSet? fl name negated
  | .property q negated => propertySet? fl q negated
  | .bracket s negated => do settle? fl negated (← s.meaning? fl)
  | .union ss => (SetTerm.meanings? fl ss).map CharSet.unionAll
  | .op o s t => do
    let s := fold fl (← s.meaning? fl)
    let t := fold fl (← t.meaning? fl)
    return match o with
      | .inter => s.inter t
      | .diff => s.diff t
      | .symmDiff => s.symmDiff t

def SetTerm.meanings? (fl : Flags) : List SetTerm → Option (List CharSet)
  | [] => some []
  | s :: ss => do return (← s.meaning? fl) :: (← SetTerm.meanings? fl ss)

end

def letterShape? (fl : Flags) (l : Letter) : Option Shape :=
  if !fl.unicode && l.asByte && 128 ≤ l.char.toNat then none
  else some (.ofSet fl.unicode (fold fl (.single l.char)))

def dotSet? (fl : Flags) : Option CharSet :=
  if !fl.unicode then none
  else if fl.dotAll then some .all
  else if fl.returnLines then some (CharSet.complement ⟨[(10, 10), (13, 13)]⟩)
  else some (CharSet.single '\n').complement

def anchorLook (fl : Flags) : Anchor → Look
  | .lineStart =>
    if !fl.multiLine then .start else if fl.returnLines then .returnLineStart else .lineStart
  | .lineFinish =>
    if !fl.multiLine then .finish else if fl.returnLines then .returnLineFinish else .lineFinish
  | .textStart => .start
  | .textFinish => .finish
  | .wordEdge => .word fl.unicode .edge
  | .notWordEdge => .word fl.unicode .noEdge
  | .wordStart => .word fl.unicode .start
  | .wordFinish => .word fl.unicode .finish
  | .wordStartHalf => .word fl.unicode .startHalf
  | .wordFinishHalf => .word fl.unicode .finishHalf

mutual

def Term.shape? (fl : Flags) : Term → Option (Shape × Flags)
  | .flags changes => some (.empty, fl.change changes)
  | .letter l => (letterShape? fl l).map fun p => (p, fl)
  | .dot => (dotSet? fl).map fun s => (.ofSet fl.unicode s, fl)
  | .anchor a => some (.look (anchorLook fl a), fl)
  | .perl name negated => (classSet? fl name negated).map fun s => (.ofSet fl.unicode s, fl)
  | .property q negated => (propertySet? fl q negated).map fun s => (.ofSet fl.unicode s, fl)
  | .set s negated => do
    let s ← s.meaning? fl
    return (.ofSet fl.unicode (← settle? fl negated s), fl)
  | .times t least most greedy => do
    let (p, after) ← t.shape? fl
    return (p.repeated least most (greedy != after.swapGreed), after)
  | .group captures changes t => do
    let (p, _) ← t.shape? (fl.change changes)
    return (if captures then .group p else p, fl)
  | .alt ts => do
    let (ps, fl) ← Term.shapes? fl ts
    return (.ofChoice ps, fl)
  | .concat ts => do
    let (ps, fl) ← Term.shapes? fl ts
    return (.ofSeq ps, fl)

def Term.shapes? (fl : Flags) : List Term → Option (List Shape × Flags)
  | [] => some ([], fl)
  | t :: ts => do
    let (p, fl) ← t.shape? fl
    let (ps, fl) ← Term.shapes? fl ts
    return (p :: ps, fl)

end

end TableAudit.Pattern
