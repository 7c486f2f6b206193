import TableAudit.Json.Number

/-! JSON values and their two written forms. Object members keep their order and may repeat. -/
namespace TableAudit

inductive Json where
  | null
  | bool (b : Bool)
  | number (n : Json.Number)
  | string (s : String)
  | array (items : List Json)
  | object (members : List (String × Json))

namespace Json

def nat (n : Nat) : Json := .number (.whole n)

def float (x : Binary64) : Json := .number (.float x)

def strings (ss : List String) : Json := .array (ss.map .string)

def hexDigits (n : Nat) : List Char :=
  [n / 4096 % 16, n / 256 % 16, n / 16 % 16, n % 16].map Nat.digitChar

def escape (c : Char) : List Char :=
  match c with
  | '"' => ['\\', '"']
  | '\\' => ['\\', '\\']
  | '\x08' => ['\\', 'b']
  | '\x0c' => ['\\', 'f']
  | '\n' => ['\\', 'n']
  | '\r' => ['\\', 'r']
  | '\t' => ['\\', 't']
  | c => if c.toNat < 32 then '\\' :: 'u' :: hexDigits c.toNat else [c]

def quote (s : String) : List Char := '"' :: s.toList.flatMap escape ++ ['"']

/-- How the parts of an array or object are set apart at a given depth. -/
structure Spacing where
  before : Nat → List Char
  colon : List Char

def tight : Spacing := ⟨fun _ => [], [':']⟩

def spread : Spacing := ⟨fun depth => '\n' :: List.replicate (2 * depth) ' ', [':', ' ']⟩

mutual

def write (sp : Spacing) (depth : Nat) : Json → List Char
  | .null => ['n', 'u', 'l', 'l']
  | .bool true => ['t', 'r', 'u', 'e']
  | .bool false => ['f', 'a', 'l', 's', 'e']
  | .number n => n.spell
  | .string s => quote s
  | .array [] => ['[', ']']
  | .array (x :: xs) =>
    '[' :: sp.before (depth + 1) ++ write sp (depth + 1) x ++ writeItems sp depth xs
  | .object [] => ['\x7b', '\x7d']
  | .object (m :: ms) =>
    '\x7b' :: sp.before (depth + 1) ++ writeMember sp depth m ++ writeMembers sp depth ms

def writeItems (sp : Spacing) (depth : Nat) : List Json → List Char
  | [] => sp.before depth ++ [']']
  | x :: xs => ',' :: sp.before (depth + 1) ++ write sp (depth + 1) x ++ writeItems sp depth xs

def writeMember (sp : Spacing) (depth : Nat) : String × Json → List Char
  | (name, x) => quote name ++ sp.colon ++ write sp (depth + 1) x

def writeMembers (sp : Spacing) (depth : Nat) : List (String × Json) → List Char
  | [] => sp.before depth ++ ['\x7d']
  | m :: ms => ',' :: sp.before (depth + 1) ++ writeMember sp depth m ++ writeMembers sp depth ms

end

def compact (j : Json) : String := String.ofList (write tight 0 j)

def pretty (j : Json) : String := String.ofList (write spread 0 j)

def get? (name : String) : Json → Option Json
  | .object ms => ms.lookup name
  | _ => none

end Json
end TableAudit
