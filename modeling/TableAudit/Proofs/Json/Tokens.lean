import TableAudit.Proofs.Json.Numbers

/-! A value is written as its tokens, whatever blanks set them apart. -/
namespace TableAudit.Json

private theorem tokens_space {c : Char} (h : isSpace c = true) (r : List Char) :
    tokens (c :: r) = tokens r := by
  rw [tokens, if_pos h]

private theorem tokens_blanks {bs : List Char} (h : ∀ c ∈ bs, isSpace c = true) (r : List Char) :
    tokens (bs ++ r) = tokens r := by
  induction bs with
  | nil => rfl
  | cons b bs ih =>
    rw [List.forall_mem_cons] at h
    rw [List.cons_append, tokens_space h.1, ih h.2]

private theorem tokens_punctuation {c : Char} {t : Token} (h : punctuation? c = some t)
    (hspace : isSpace c = false) (r : List Char) : tokens (c :: r) = t :: tokens r := by
  rw [tokens, if_neg (by simp [hspace])]
  simp only [h]

def pieceOf (c : Char) : Piece :=
  if c.toNat < 32 ∧ c ∉ ['\x08', '\x0c', '\n', '\r', '\t'] then .unit c.toNat else .plain c

private theorem hexUnit?_hexDigits : ∀ n < 32, ∃ a b c d, hexDigits n = [a, b, c, d] ∧
    hexUnit? a b c d = some n := by
  intro n hn
  refine ⟨_, _, _, _, rfl, ?_⟩
  revert n
  decide

private theorem scanString_escape (c : Char) (r : List Char) :
    scanString (escape c ++ r) = (pieceOf c :: (scanString r).1, (scanString r).2) := by
  unfold escape
  split
  iterate 7 simp [scanString, simpleEscape?, pieceOf]
  next hquote hback hb hf hn hr ht =>
    split
    · next hlow =>
      obtain ⟨x, y, z, w, hdigits, hunit⟩ := hexUnit?_hexDigits c.toNat hlow
      have hpiece : pieceOf c = .unit c.toNat :=
        if_pos ⟨hlow, by simpa using ⟨hb, hf, hn, hr, ht⟩⟩
      rw [hdigits, hpiece]
      simp [scanString, hunit]
    · next hhigh =>
      have hpiece : pieceOf c = .plain c := by simp [pieceOf, hhigh]
      rw [hpiece, List.singleton_append, scanString.eq_def]
      split <;> simp_all

private theorem scanString_quoted (cs r : List Char) :
    scanString (cs.flatMap escape ++ '"' :: r) = (cs.map pieceOf, .ok r) := by
  induction cs with
  | nil => rfl
  | cons c cs ih => rw [List.flatMap_cons, List.append_assoc, scanString_escape, ih]; rfl

private theorem spellPieces?_cons (c : Char) (ps : List Piece) :
    spellPieces? (pieceOf c :: ps) = (spellPieces? ps).map (c :: ·) := by
  unfold pieceOf
  split
  · next hlow =>
    have hpair : isHighSurrogate c.toNat = false ∧ isLowSurrogate c.toNat = false := by
      simp only [isHighSurrogate, isLowSurrogate, Bool.and_eq_false_iff, decide_eq_false_iff_not]
      omega
    rcases ps with _ | ⟨p | m, ps⟩ <;> simp [spellPieces?, hpair]
  · rfl

private theorem spellPieces?_map_pieceOf (cs : List Char) :
    spellPieces? (cs.map pieceOf) = some cs := by
  induction cs with
  | nil => rfl
  | cons c cs ih => rw [List.map_cons, spellPieces?_cons, ih]; rfl

private theorem tokens_quote (s : String) (r : List Char) :
    tokens (quote s ++ r) = .string (some s) :: tokens r := by
  have hquote : quote s ++ r = '"' :: (s.toList.flatMap escape ++ '"' :: r) := by simp [quote]
  rw [hquote]
  refine tokens_scalar rfl rfl ?_
  simp [scanToken, scanString_quoted, stringToken, spellPieces?_map_pieceOf]

mutual

def tokenList : Json → List Token
  | .null => [.null]
  | .bool b => [.bool b]
  | .number n => [n.token]
  | .string s => [.string (some s)]
  | .array [] => [.openArray, .closeArray]
  | .array (x :: xs) => .openArray :: (tokenList x ++ itemTokens xs)
  | .object [] => [.openObject, .closeObject]
  | .object (m :: ms) => .openObject :: (memberTokens m ++ membersTokens ms)

def itemTokens : List Json → List Token
  | [] => [.closeArray]
  | x :: xs => .comma :: (tokenList x ++ itemTokens xs)

def memberTokens : String × Json → List Token
  | (name, x) => .string (some name) :: .colon :: tokenList x

def membersTokens : List (String × Json) → List Token
  | [] => [.closeObject]
  | m :: ms => .comma :: (memberTokens m ++ membersTokens ms)

end

/-- Nothing but blanks stands between the parts, and one colon behind a name. -/
structure Spacing.Blank (sp : Spacing) : Prop where
  before : ∀ depth, ∀ c ∈ sp.before depth, isSpace c = true
  colon : ∃ bs, sp.colon = ':' :: bs ∧ ∀ c ∈ bs, isSpace c = true

theorem tight_blank : tight.Blank := ⟨by simp [tight], [], rfl, by simp⟩

theorem spread_blank : spread.Blank := by
  refine ⟨fun depth c hc => ?_, [' '], rfl, List.forall_mem_singleton.mpr rfl⟩
  rcases List.mem_cons.mp hc with rfl | hc
  · rfl
  · rw [(List.mem_replicate.mp hc).2]
    rfl

section Write

variable {sp : Spacing}

private theorem Spacing.Blank.tokens_before (h : sp.Blank) (depth : Nat) (r : List Char) :
    tokens (sp.before depth ++ r) = tokens r :=
  tokens_blanks (h.before depth) r

private theorem Spacing.Blank.tokens_colon (h : sp.Blank) (r : List Char) :
    tokens (sp.colon ++ r) = .colon :: tokens r := by
  obtain ⟨bs, hcolon, hbs⟩ := h.colon
  rw [hcolon, List.cons_append, tokens_punctuation rfl rfl, tokens_blanks hbs]

private theorem Spacing.Blank.delimited (h : sp.Blank) (depth : Nat) {c : Char}
    (hc : (punctuation? c).isSome = true) (r : List Char) :
    Delimited (sp.before depth ++ c :: r) := by
  cases hb : sp.before depth with
  | nil => exact delimited_cons (.inr hc) r
  | cons b bs => exact delimited_cons (.inl (h.before depth b (by simp [hb]))) _

private theorem delimited_writeItems (h : sp.Blank) (depth : Nat) (xs : List Json) (r : List Char) :
    Delimited (writeItems sp depth xs ++ r) := by
  cases xs with
  | nil =>
    rw [writeItems, List.append_assoc]
    exact h.delimited depth rfl r
  | cons x xs => exact delimited_cons (.inr rfl) _

private theorem delimited_writeMembers (h : sp.Blank) (depth : Nat) (ms : List (String × Json))
    (r : List Char) : Delimited (writeMembers sp depth ms ++ r) := by
  cases ms with
  | nil =>
    rw [writeMembers, List.append_assoc]
    exact h.delimited depth rfl r
  | cons m ms => exact delimited_cons (.inr rfl) _

mutual

private theorem tokens_write (h : sp.Blank) (depth : Nat) (j : Json) {r : List Char}
    (hr : Delimited r) :
    tokens (write sp depth j ++ r) = tokenList j ++ tokens r := by
  match j with
  | .null => exact tokens_scalar rfl rfl rfl
  | .bool true => exact tokens_scalar rfl rfl rfl
  | .bool false => exact tokens_scalar rfl rfl rfl
  | .number n => exact n.tokens_spell hr
  | .string s => exact tokens_quote s r
  | .array [] =>
    simp only [write, tokenList, List.cons_append, List.nil_append]
    rw [tokens_punctuation rfl rfl, tokens_punctuation rfl rfl]
  | .array (x :: xs) =>
    simp only [write, tokenList, List.cons_append, List.append_assoc]
    rw [tokens_punctuation rfl rfl, h.tokens_before,
      tokens_write h (depth + 1) x (delimited_writeItems h depth xs r),
      tokens_writeItems h depth xs r]
  | .object [] =>
    simp only [write, tokenList, List.cons_append, List.nil_append]
    rw [tokens_punctuation rfl rfl, tokens_punctuation rfl rfl]
  | .object (m :: ms) =>
    simp only [write, tokenList, List.cons_append, List.append_assoc]
    rw [tokens_punctuation rfl rfl, h.tokens_before,
      tokens_writeMember h depth m (delimited_writeMembers h depth ms r),
      tokens_writeMembers h depth ms r]

private theorem tokens_writeItems (h : sp.Blank) (depth : Nat) (xs : List Json) (r : List Char) :
    tokens (writeItems sp depth xs ++ r) = itemTokens xs ++ tokens r := by
  match xs with
  | [] =>
    simp only [writeItems, itemTokens, List.append_assoc, List.cons_append, List.nil_append]
    rw [h.tokens_before, tokens_punctuation rfl rfl]
  | x :: xs =>
    simp only [writeItems, itemTokens, List.cons_append, List.append_assoc]
    rw [tokens_punctuation rfl rfl, h.tokens_before,
      tokens_write h (depth + 1) x (delimited_writeItems h depth xs r),
      tokens_writeItems h depth xs r]

private theorem tokens_writeMember (h : sp.Blank) (depth : Nat) (m : String × Json) {r : List Char}
    (hr : Delimited r) :
    tokens (writeMember sp depth m ++ r) = memberTokens m ++ tokens r := by
  match m with
  | (name, x) =>
    simp only [writeMember, memberTokens, List.cons_append, List.append_assoc]
    rw [tokens_quote, h.tokens_colon, tokens_write h (depth + 1) x hr]

private theorem tokens_writeMembers (h : sp.Blank) (depth : Nat) (ms : List (String × Json))
    (r : List Char) : tokens (writeMembers sp depth ms ++ r) = membersTokens ms ++ tokens r := by
  match ms with
  | [] =>
    simp only [writeMembers, membersTokens, List.append_assoc, List.cons_append, List.nil_append]
    rw [h.tokens_before, tokens_punctuation rfl rfl]
  | m :: ms =>
    simp only [writeMembers, membersTokens, List.cons_append, List.append_assoc]
    rw [tokens_punctuation rfl rfl, h.tokens_before,
      tokens_writeMember h depth m (delimited_writeMembers h depth ms r),
      tokens_writeMembers h depth ms r]

end

theorem tokens_text (h : sp.Blank) (j : Json) : tokens (write sp 0 j) = tokenList j := by
  have := tokens_write h 0 j delimited_nil
  rwa [List.append_nil, tokens, List.append_nil] at this

end Write
end TableAudit.Json
