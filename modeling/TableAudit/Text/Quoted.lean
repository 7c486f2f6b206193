import TableAudit.Text.CharTables

/-! Text in double quotes. Quotes, backslashes, the usual controls and every character that does not
print by itself are escaped, so the quoted form of a text ends at its closing quote. -/
namespace TableAudit.Text

def isHangulFiller (c : Char) : Bool :=
  c = '\u115F' || c = '\u1160' || c = '\u3164' || c = '\uFFA0'

def needsCode (c : Char) : Bool :=
  attachedTable.contains c || unprintableTable.contains c || isHangulFiller c

def escaped (c : Char) : List Char :=
  match c with
  | '"' => ['\\', '"']
  | '\\' => ['\\', '\\']
  | '\n' => ['\\', 'n']
  | '\r' => ['\\', 'r']
  | '\t' => ['\\', 't']
  | '\x00' => ['\\', '0']
  | c =>
    if needsCode c then '\\' :: 'u' :: '\x7b' :: Nat.toDigits 16 c.toNat ++ ['\x7d'] else [c]

def quoted (s : String) : List Char := '"' :: s.toList.flatMap escaped ++ ['"']

def quotedList (ss : List String) : List Char :=
  '[' :: [',', ' '].intercalate (ss.map quoted) ++ [']']

end TableAudit.Text
