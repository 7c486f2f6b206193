import TableAudit.Json.Reader
import TableAudit.Proofs.Json.Tokens

/-! A written value is read as itself, but for its numbers, each of which is what its numeral
says. -/
namespace TableAudit.Json

def Number.node (n : Number) : Node :=
  match n.literal? with
  | some l => .number (ofLiteral? l)
  | none => .null

mutual

def node : Json → Node
  | .null => .null
  | .bool b => .bool b
  | .number n => n.node
  | .string s => .string (some s)
  | .array xs => .array (itemNodes xs)
  | .object ms => .object (memberNodes ms)

def itemNodes : List Json → Items
  | [] => .done
  | x :: xs => .item (node x) (itemNodes xs)

def memberNodes : List (String × Json) → Members
  | [] => .done
  | (name, x) :: ms => .member (some name) (node x) (memberNodes ms)

end

theorem Number.node_of_reread? {n m : Number} (h : n.reread? = some m) : n.node = .number (some m) := by
  unfold reread? at h
  obtain ⟨l, hl, hm⟩ := Option.bind_eq_some_iff.mp h
  rw [node, hl, ← hm]

theorem Number.node_of_not_isFinite {x : Binary64} (h : x.isFinite = false) :
    (float x).node = .null := by
  simp [node, literal?, h]

section Assemble

variable {ts : List Token} {frames frames' : List Frame} {place place' : Place}

private theorem assemble_of_advance {t : Token}
    (h : place.advance t frames = some (place', frames')) :
    assemble (t :: ts) place frames = assemble ts place' frames' := by
  cases place with
  | after x =>
    cases frames with
    | nil => cases t <;> cases h
    | cons f fs => rw [assemble, h]; simp
  | _ => rw [assemble, h]; simp

private theorem assemble_of_opened {t : Token} (hplace : place = .value ∨ place = .firstItem)
    (h : t.opened frames = some (place', frames')) :
    assemble (t :: ts) place frames = assemble ts place' frames' := by
  refine assemble_of_advance ?_
  rcases hplace with rfl | rfl
  · exact h
  · cases t <;> first | exact h | cases h

mutual

private theorem assemble_tokenList (j : Json) (ts : List Token) (frames : List Frame)
    {place : Place} (hplace : place = .value ∨ place = .firstItem) :
    assemble (tokenList j ++ ts) place frames = assemble ts (.after j.node) frames := by
  match j with
  | .null => exact assemble_of_opened hplace rfl
  | .bool _ => exact assemble_of_opened hplace rfl
  | .string _ => exact assemble_of_opened hplace rfl
  | .number n =>
    refine assemble_of_opened hplace ?_
    rw [Number.token, node, Number.node]
    cases n.literal? <;> rfl
  | .array [] =>
    rw [tokenList, List.cons_append, assemble_of_opened hplace rfl, List.singleton_append,
      assemble_of_advance rfl]
    rfl
  | .array (x :: xs) =>
    rw [tokenList, List.cons_append, assemble_of_opened hplace rfl, List.append_assoc,
      assemble_tokenList x _ _ (.inr rfl), assemble_itemTokens xs]
    rfl
  | .object [] =>
    rw [tokenList, List.cons_append, assemble_of_opened hplace rfl, List.singleton_append,
      assemble_of_advance rfl]
    rfl
  | .object ((name, x) :: ms) =>
    rw [tokenList, memberTokens, List.cons_append, assemble_of_opened hplace rfl, List.cons_append,
      List.cons_append, List.cons_append, List.cons_append, assemble_of_advance rfl,
      assemble_of_advance rfl, List.append_assoc, assemble_tokenList x _ _ (.inl rfl),
      assemble_membersTokens ms]
    rfl

private theorem assemble_itemTokens (xs : List Json) (ts : List Token) (frames : List Frame) (x : Node)
    (before : List Node) :
    assemble (itemTokens xs ++ ts) (.after x) (.items before :: frames) =
      assemble ts (.after (.array (Items.after (.item x (itemNodes xs)) before))) frames := by
  match xs with
  | [] =>
    rw [itemTokens, List.singleton_append, assemble_of_advance rfl]
    rfl
  | y :: xs =>
    rw [itemTokens, List.cons_append, assemble_of_advance rfl, List.append_assoc,
      assemble_tokenList y _ _ (.inl rfl), assemble_itemTokens xs]
    rfl

private theorem assemble_membersTokens (ms : List (String × Json)) (ts : List Token) (frames : List Frame)
    (name : Option String) (x : Node) (before : List (Option String × Node)) :
    assemble (membersTokens ms ++ ts) (.after x) (.member before name :: frames) =
      assemble ts (.after (.object (Members.after (.member name x (memberNodes ms)) before)))
        frames := by
  match ms with
  | [] =>
    rw [membersTokens, List.singleton_append, assemble_of_advance rfl]
    rfl
  | (next, y) :: ms =>
    rw [membersTokens, memberTokens, List.cons_append, assemble_of_advance rfl, List.cons_append,
      List.cons_append, List.cons_append, List.cons_append, assemble_of_advance rfl,
      assemble_of_advance rfl, List.append_assoc, assemble_tokenList y _ _ (.inl rfl),
      assemble_membersTokens ms]
    rfl

end

end Assemble

private theorem nodeOf_write {sp : Spacing} (h : sp.Blank) (j : Json) :
    nodeOf (write sp 0 j) = (j.node, false) := by
  have hall := assemble_tokenList j [] [] (.inl rfl)
  rw [List.append_nil] at hall
  rw [nodeOf, tokens_text h, hall]
  rfl

/-- A reader of a whole text meets the written value and nothing else. -/
theorem readText_write {α : Type} {sp : Spacing} (h : sp.Blank) (read : Node → Except Fault α)
    (j : Json) : readText read (String.ofList (write sp 0 j)) = read j.node := by
  rw [readText, String.toList_ofList, nodeOf_write h]
  cases hread : read j.node <;> simp [hread, bind, Except.bind, pure, Except.pure]

theorem toList_itemNodes {α : Type} (read : Node → Except Fault α) (js : List Json) :
    (itemNodes js).toList read = js.mapM fun j => read j.node := by
  induction js with
  | nil => rfl
  | cons j js ih => rw [itemNodes, Items.toList, ih, List.mapM_cons]

theorem toList_strings (ss : List String) : (strings ss).node.toList Node.toText = .ok ss := by
  rw [strings, node, Node.toList, toList_itemNodes]
  induction ss with
  | nil => rfl
  | cons s ss ih =>
    rw [List.map_cons, List.mapM_cons, ih]
    rfl

theorem toJson_strings {room : Nat} (h : 1 < room) (ss : List String) :
    (strings ss).node.toJson room = .ok (strings ss) := by
  have hitems : (itemNodes (ss.map string)).toJson (room - 1) = .ok (ss.map string) := by
    induction ss with
    | nil => rfl
    | cons s ss ih =>
      rw [List.map_cons, itemNodes, Items.toJson, ih]
      rfl
  rw [strings, node, Node.toJson, if_neg (Nat.not_le_of_lt h), hitems]
  rfl

theorem fold_member {σ : Type} {take : String → Node → σ → Except Fault σ} {name : String} {x : Node}
    {s : σ} (s' : σ) (h : take name x s = .ok s') (rest : Members) :
    (Members.member (some name) x rest).fold take s = rest.fold take s' := by
  rw [Members.fold, h]
  rfl

end TableAudit.Json
