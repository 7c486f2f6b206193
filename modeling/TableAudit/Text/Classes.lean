import TableAudit.Text.Blank
import TableAudit.Text.DigitTable
import TableAudit.Text.CategoryTables
import TableAudit.Text.ScriptTables
import TableAudit.Text.PropertyTables
import TableAudit.Text.AgeTables
import TableAudit.Text.BreakTables
import TableAudit.Text.CaseTable

/-! Named classes of characters and classes closed under case, as they are in Unicode 16. -/
namespace TableAudit.CharSet

def blanks : CharSet :=
  ⟨[(9, 13), (0x20, 0x20), (0x85, 0x85), (0xA0, 0xA0), (0x1680, 0x1680), (0x2000, 0x200A),
    (0x2028, 0x2029), (0x202F, 0x202F), (0x205F, 0x205F), (0x3000, 0x3000)]⟩

def lettersAndDigits : CharSet := ⟨[(48, 57), (65, 90), (95, 95), (97, 122)]⟩

def wordChars (unicode : Bool) : CharSet := if unicode then Text.wordTable else lettersAndDigits

def decimalDigits : CharSet := ⟨Text.digitZeros.map fun first => (first, first + 9)⟩

theorem contains_blanks (c : Char) : blanks.contains c = Text.isBlank c := by
  rw [Bool.eq_iff_iff]
  simp only [contains, blanks, Text.isBlank, List.any_cons, List.any_nil, Bool.or_false,
    Bool.or_eq_true, Bool.and_eq_true, decide_eq_true_eq]
  omega

theorem contains_decimalDigits (c : Char) :
    decimalDigits.contains c = Text.isDecimalDigit c := by
  simp only [contains, decimalDigits, Text.isDecimalDigit, List.any_map]
  congr 1
  funext first
  simp [Nat.lt_succ_iff]

def named? {α : Type} (tables : List (List String × α)) (name : String) : Option α :=
  (tables.find? fun entry => entry.1.contains name).map (·.2)

def category? (name : String) : Option CharSet :=
  if name = "any" then some all
  else if name = "ascii" then some (range 0 127)
  else if name = "assigned" then ((named? Text.categoryTables "cn").map ofTable).map complement
  else
    match named? Text.categoryTables name with
    | some table => some (ofTable table)
    | none =>
      (named? Text.categoryGroups name).map fun members =>
        unionAll ((members.filterMap (named? Text.categoryTables)).map ofTable)

def script? (name : String) : Option CharSet := (named? Text.scriptTables name).map ofTable

def scriptExtension? (name : String) : Option CharSet := do
  let names ← (Text.scriptTables.find? fun entry => entry.1.contains name).map (·.1)
  match names.head?.bind (named? Text.scriptExtensionTables) with
  | some table => return ofTable table
  | none => script? name

def property? (name : String) : Option CharSet :=
  if name = "whitespace" || name = "wspace" || name = "space" then some blanks
  else (named? Text.propertyTables name).map ofTable

def age? (name : String) : Option CharSet :=
  let isOther (entry : List String × String) : Bool := !entry.1.contains name
  match Text.ageTables.dropWhile isOther with
  | [] => none
  | last :: _ =>
    some (unionAll ((Text.ageTables.takeWhile isOther ++ [last]).map fun entry => ofTable entry.2))

/-- The Hangul syllables that end in a vowel, one for each 28 code points, and those between them,
which end in a consonant. -/
def hangulSyllables (closed : Bool) : CharSet :=
  ⟨(List.range 399).map fun k =>
    let first := 0xAC00 + 28 * k
    if closed then (first + 1, first + 27) else (first, first)⟩

def clusterBreak? (name : String) : Option CharSet :=
  if name = "lv" then some (hangulSyllables false)
  else if name = "lvt" then some (hangulSyllables true)
  else (named? Text.clusterBreakTables name).map ofTable

def wordBreak? (name : String) : Option CharSet := (named? Text.wordBreakTables name).map ofTable

def sentenceBreak? (name : String) : Option CharSet :=
  (named? Text.sentenceBreakTables name).map ofTable

def value? (property value : String) : Option CharSet :=
  match property with
  | "gc" | "generalcategory" => category? value
  | "sc" | "script" => script? value
  | "scx" | "scriptextensions" => scriptExtension? value
  | "age" => age? value
  | "gcb" | "graphemeclusterbreak" => clusterBreak? value
  | "wb" | "wordbreak" => wordBreak? value
  | "sb" | "sentencebreak" => sentenceBreak? value
  | _ => none

/-- Pairs of characters that differ in case only and are not lowercase partners. -/
def extraCasePairs : List (Nat × Nat) :=
  [(0x53, 0x17F), (0xB5, 0x39C), (0x345, 0x399), (0x345, 0x1FBE), (0x390, 0x1FD3),
    (0x392, 0x3D0), (0x395, 0x3F5), (0x398, 0x3D1), (0x39A, 0x3F0), (0x3A0, 0x3D6),
    (0x3A1, 0x3F1), (0x3A3, 0x3C2), (0x3A6, 0x3D5), (0x3B0, 0x1FE3), (0x412, 0x1C80),
    (0x414, 0x1C81), (0x41E, 0x1C82), (0x421, 0x1C83), (0x422, 0x1C84), (0x422, 0x1C85),
    (0x42A, 0x1C86), (0x462, 0x1C87), (0x1C88, 0xA64A), (0x1E60, 0x1E9B), (0xFB05, 0xFB06)]

def containsCode (s : CharSet) (n : Nat) : Bool := s.ranges.any fun r => r.1 ≤ n && n ≤ r.2

def laterCapitals : CharSet :=
  ⟨[(0xA7CE, 0xA7CE), (0xA7D2, 0xA7D2), (0xA7D4, 0xA7D4), (0x16EA0, 0x16EB8)]⟩

def casePairs : List (Nat × Nat) :=
  ((Text.caseRuns.flatMap fun r =>
    (List.range ((r.last - r.first) / r.step + 1)).map fun k =>
      let n := r.first + r.step * k
      (n, (n + r.shift).toNat)).filter fun pair => !laterCapitals.containsCode pair.1) ++
    extraCasePairs

def addPartners (pairs : List (Nat × Nat)) (s : CharSet) : CharSet :=
  ofRanges (s.ranges ++ pairs.flatMap fun (a, b) =>
    if s.containsCode a then [(b, b)] else if s.containsCode b then [(a, a)] else [])

/-- All characters that differ from a member in case only; no two are more than three steps apart. -/
def foldCase (s : CharSet) : CharSet :=
  addPartners casePairs (addPartners casePairs (addPartners casePairs s))

def foldAsciiCase (s : CharSet) : CharSet :=
  addPartners ((List.range 26).map fun k => (65 + k, 97 + k)) s

end TableAudit.CharSet
