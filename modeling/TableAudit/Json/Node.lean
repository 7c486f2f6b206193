import TableAudit.Json.Lexer

/-! The value of a text as far as it can be read. A part that goes wrong keeps its place in the
value, so a reader that walks the value from left to right meets the faults of the text and those
of its own in the order of the text. -/
namespace TableAudit.Json

mutual

inductive Node where
  | null
  | bool (b : Bool)
  | number (n : Option Number)
  | string (s : Option String)
  | array (items : Items)
  | object (members : Members)
  | broken (found : Option Token)

inductive Items where
  | done
  | cut (f : Fault)
  | item (x : Node) (rest : Items)

inductive Members where
  | done
  | cut (f : Fault)
  | badName (found : Option Token)
  /-- A member; a name without its colon has a broken value. -/
  | member (name : Option String) (x : Node) (rest : Members)

end

def Items.after (rest : Items) (reversed : List Node) : Items :=
  reversed.foldl (fun rest x => .item x rest) rest

def Members.after (rest : Members) (reversed : List (Option String × Node)) : Members :=
  reversed.foldl (fun rest m => .member m.1 m.2 rest) rest

/-- An array or object that is open, with what it holds so far, last first. -/
inductive Frame where
  | items (before : List Node)
  | member (before : List (Option String × Node)) (name : Option String)

/-- The whole value when nothing follows the innermost part. -/
def abandon (x : Node) (frames : List Frame) : Node :=
  frames.foldl (fun x frame =>
    match frame with
    | .items before => .array ((Items.item x (.cut .malformed)).after before)
    | .member before name => .object ((Members.member name x (.cut .malformed)).after before)) x

/-- What the next token must be. -/
inductive Place where
  | value
  | firstItem
  | firstName
  | name (before : List (Option String × Node))
  | colon (before : List (Option String × Node)) (name : Option String)
  | after (x : Node)

def misplaced : Option Token → Fault
  | none => .cutShort
  | some _ => .malformed

def Place.leave (found : Option Token) (frames : List Frame) : Place → Node
  | .value | .firstItem => abandon (.broken found) frames
  | .firstName => abandon (.object (.badName found)) frames
  | .name before => abandon (.object (Members.after (.badName found) before)) frames
  | .colon before s =>
    let noValue := Node.broken (found.map fun _ => .stray)
    abandon (.object ((Members.member s noValue (.cut .malformed)).after before)) frames
  | .after x =>
    let f := misplaced found
    match frames with
    | [] => x
    | .items before :: frames => abandon (.array (Items.after (.item x (.cut f)) before)) frames
    | .member before s :: frames =>
      abandon (.object (Members.after (.member s x (.cut f)) before)) frames

def Token.scalar? : Token → Option Node
  | .null => some .null
  | .bool b => some (.bool b)
  | .number n => some (.number n)
  | .string s => some (.string s)
  | _ => none

def Token.opened (frames : List Frame) : Token → Option (Place × List Frame)
  | .openArray => some (.firstItem, .items [] :: frames)
  | .openObject => some (.firstName, frames)
  | t => t.scalar?.map fun x => (.after x, frames)

def Place.advance (t : Token) (frames : List Frame) : Place → Option (Place × List Frame)
  | .value => t.opened frames
  | .firstItem =>
    match t, frames with
    | .closeArray, .items _ :: frames => some (.after (.array .done), frames)
    | t, frames => t.opened frames
  | .firstName =>
    match t with
    | .string s => some (.colon [] s, frames)
    | .closeObject => some (.after (.object .done), frames)
    | _ => none
  | .name before =>
    match t with
    | .string s => some (.colon before s, frames)
    | _ => none
  | .colon before s =>
    match t with
    | .colon => some (.value, .member before s :: frames)
    | _ => none
  | .after x =>
    match t, frames with
    | .comma, .items before :: frames => some (.value, .items (x :: before) :: frames)
    | .closeArray, .items before :: frames =>
      some (.after (.array (Items.after .done (x :: before))), frames)
    | .comma, .member before s :: frames => some (.name ((s, x) :: before), frames)
    | .closeObject, .member before s :: frames =>
      some (.after (.object (Members.after .done ((s, x) :: before))), frames)
    | _, _ => none

/-- The value at the front of a token list and the tokens behind it; none are left behind a value
that is broken. -/
def assemble : List Token → Place → List Frame → Node × List Token
  | ts, .after x, [] => (x, ts)
  | [], place, frames => (place.leave none frames, [])
  | t :: ts, place, frames =>
    match place.advance t frames with
    | some (place, frames) => assemble ts place frames
    | none => (place.leave (some t) frames, [])

/-- The value of a text, and whether anything but blanks follows it. -/
def nodeOf (text : List Char) : Node × Bool :=
  let (x, rest) := assemble (tokens text) .value []
  (x, !rest.isEmpty)

end TableAudit.Json
