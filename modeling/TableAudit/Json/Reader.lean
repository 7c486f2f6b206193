import TableAudit.Json.Node

/-! Readers of JSON texts. A reader walks a value from left to right and answers with what it reads
or with the first fault, be it one of the text or a value of an unwanted shape. -/
namespace TableAudit.Json

def Token.valueFault : Option Token → Fault
  | none => .cutShort
  | some (.brokenString read _) => read
  | some (.brokenScalar read _) => read
  | some _ => .malformed

def Token.skipFault : Option Token → Fault
  | none => .cutShort
  | some (.brokenString _ skip) => skip
  | some (.brokenScalar _ skip) => skip
  | some _ => .malformed

def Token.nameFault : Option Token → Fault
  | none => .cutShort
  | some (.brokenString read _) => read
  | some _ => .malformed

def Token.skipNameFault : Option Token → Fault
  | none => .cutShort
  | some (.brokenString _ skip) => skip
  | some _ => .malformed

/-- What a reader finds in a value of another shape than it wants: the faults of a literal come
first, the inside of an array or object does not matter. -/
def Node.unwanted : Node → Fault
  | .number none => .malformed
  | .string none => .malformed
  | .broken found => Token.valueFault found
  | _ => .wrongShape

def Node.toText : Node → Except Fault String
  | .string (some s) => .ok s
  | x => .error x.unwanted

def Node.toBool : Node → Except Fault Bool
  | .bool b => .ok b
  | x => .error x.unwanted

def Node.toCount : Node → Except Fault UInt64
  | .number (some (.whole n)) => if 0 ≤ n then .ok (UInt64.ofNat n.toNat) else .error .wrongShape
  | x => .error x.unwanted

def Node.toOption {α : Type} (read : Node → Except Fault α) : Node → Except Fault (Option α)
  | .null => .ok none
  | x => (read x).map some

def Items.toList {α : Type} (read : Node → Except Fault α) : Items → Except Fault (List α)
  | .done => .ok []
  | .cut f => .error f
  | .item x rest => do return (← read x) :: (← rest.toList read)

def Node.toList {α : Type} (read : Node → Except Fault α) : Node → Except Fault (List α)
  | .array items => items.toList read
  | x => .error x.unwanted

mutual

def Node.skip : Node → Except Fault Unit
  | .array items => items.skip
  | .object members => members.skip
  | .broken found => .error (Token.skipFault found)
  | _ => .ok ()

def Items.skip : Items → Except Fault Unit
  | .done => .ok ()
  | .cut f => .error f
  | .item x rest => do x.skip; rest.skip

def Members.skip : Members → Except Fault Unit
  | .done => .ok ()
  | .cut f => .error f
  | .badName found => .error (Token.skipNameFault found)
  | .member _ x rest => do x.skip; rest.skip

end

mutual

def Node.toJson (room : Nat) : Node → Except Fault Json
  | .null => .ok .null
  | .bool b => .ok (.bool b)
  | .number (some n) => .ok (.number n)
  | .string (some s) => .ok (.string s)
  | .number none => .error .malformed
  | .string none => .error .malformed
  | .array items => if room ≤ 1 then .error .malformed else (items.toJson (room - 1)).map .array
  | .object members =>
    if room ≤ 1 then .error .malformed else (members.toJson (room - 1)).map .object
  | .broken found => .error (Token.valueFault found)

def Items.toJson (room : Nat) : Items → Except Fault (List Json)
  | .done => .ok []
  | .cut f => .error f
  | .item x rest => do return (← x.toJson room) :: (← rest.toJson room)

def Members.toJson (room : Nat) : Members → Except Fault (List (String × Json))
  | .done => .ok []
  | .cut f => .error f
  | .badName found => .error (Token.nameFault found)
  | .member none _ _ => .error .malformed
  | .member (some name) x rest => do return (name, ← x.toJson room) :: (← rest.toJson room)

end

def depthLimit : Nat := 128

def Members.fold {σ : Type} (take : String → Node → σ → Except Fault σ) :
    Members → σ → Except Fault σ
  | .done, s => .ok s
  | .cut f, _ => .error f
  | .badName found, _ => .error (Token.nameFault found)
  | .member none _ _, _ => .error .malformed
  | .member (some name) x rest, s => do rest.fold take (← take name x s)

def Items.foldFields {σ : Type} (take : String → Node → σ → Except Fault σ) :
    List String → Items → σ → Except Fault σ
  | _, .cut f, _ => .error f
  | _, .done, s => .ok s
  | [], .item _ _, _ => .error .malformed
  | name :: names, .item x rest, s => do rest.foldFields take names (← take name x s)

/-- The fields of a record, from an object by name or from an array by position. Members of other
names are passed over. -/
def Node.toFields {σ : Type} (fields : List String) (take : String → Node → σ → Except Fault σ)
    (start : σ) : Node → Except Fault σ
  | .object members =>
    members.fold (fun name x s => if name ∈ fields then take name x s else do x.skip; return s) start
  | .array items => items.foldFields take fields start
  | x => .error x.unwanted

def once {α : Type} (old : Option α) (read : Except Fault α) : Except Fault (Option α) :=
  if old.isSome then .error .wrongShape else read.map some

def needed {α : Type} : Option α → Except Fault α
  | some a => .ok a
  | none => .error .wrongShape

/-- A named choice: its name, or an object whose one member has that name and is null. -/
def Node.toChoice {α : Type} (choose? : String → Option α) : Node → Except Fault α
  | .string (some s) => needed (choose? s)
  | .string none => .error .malformed
  | .object .done => .error .malformed
  | .object (.cut f) => .error f
  | .object (.badName found) => .error (Token.nameFault found)
  | .object (.member none _ _) => .error .malformed
  | .object (.member (some s) x rest) => do
    let a ← needed (choose? s)
    match x with
    | .null => pure ()
    | x => .error x.unwanted
    match rest with
    | .done => return a
    | .cut f => .error f
    | _ => .error .malformed
  | .broken none => .error .cutShort
  | .broken (some (.brokenString read _)) => .error read
  | _ => .error .malformed

def readText {α : Type} (read : Node → Except Fault α) (text : String) : Except Fault α := do
  let (x, more) := nodeOf text.toList
  let a ← read x
  if more then .error .malformed else return a

def ofText? (text : String) : Except Fault Json := readText (Node.toJson depthLimit) text

end TableAudit.Json
