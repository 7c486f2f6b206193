import TableAudit.Text.CaseTable
import TableAudit.Text.CharTables

/-! Lowercase of text. Characters are mapped one by one, except that a capital sigma depends on its
neighbours and a dotted capital I becomes two characters. -/
namespace TableAudit.Text

def lowerChar (c : Char) : Char :=
  match caseRuns.find? fun r =>
      r.first ≤ c.toNat && c.toNat ≤ r.last && (c.toNat - r.first) % r.step = 0 with
  | some r => Char.ofNat (c.toNat + r.shift).toNat
  | none => c

def isCased (c : Char) : Bool := casedTable.contains c

def isCaseIgnorable (c : Char) : Bool := caseIgnorableTable.contains c

def meetsCased (cs : List Char) : Bool := (cs.dropWhile isCaseIgnorable).head?.any isCased

/-- The lowercase of a character between the text before it, last character first, and the text
after it: a sigma is final behind a letter and not in front of one. -/
def lowerIn (before : List Char) (c : Char) (after : List Char) : List Char :=
  if c = 'Σ' then if meetsCased before && !meetsCased after then ['ς'] else ['σ']
  else if c = 'İ' then ['i', '\u0307']
  else [lowerChar c]

def lowerFrom (before : List Char) : List Char → List Char
  | [] => []
  | c :: after => lowerIn before c after ++ lowerFrom (c :: before) after

def lower (cs : List Char) : List Char := lowerFrom [] cs

def lowered (s : String) : String := String.ofList (lower s.toList)

end TableAudit.Text
