import TableAudit.Json.Lexer
import TableAudit.Proofs.Text.Decimal

/-! The characters of a well-formed literal are read back as that literal when a blank, punctuation
or the end of the text follows. -/
namespace TableAudit.Json

/-- What may stand behind a scalar: the end, a blank or punctuation. -/
def Delimited (rest : List Char) : Prop :=
  ∀ c ∈ rest.head?, isSpace c = true ∨ (punctuation? c).isSome = true

theorem delimited_nil : Delimited [] := by simp [Delimited]

theorem delimited_cons {c : Char} (h : isSpace c = true ∨ (punctuation? c).isSome = true)
    (rest : List Char) : Delimited (c :: rest) := by
  simpa [Delimited] using h

private theorem delimiter_cases {c : Char} (h : isSpace c = true ∨ (punctuation? c).isSome = true) :
    c ∈ [' ', '\n', '\t', '\r', '[', ']', '\x7b', '\x7d', ',', ':'] := by
  rcases h with h | h
  · simp only [isSpace, Bool.or_eq_true, decide_eq_true_eq] at h
    simp only [List.mem_cons]
    tauto
  · unfold punctuation? at h
    split at h <;> simp_all

private theorem not_number_of_delimited {rest : List Char} (h : Delimited rest) :
    ∀ c ∈ rest.head?, c.isDigit = false ∧ c ≠ '.' ∧ c ≠ 'e' ∧ c ≠ 'E' := by
  intro c hc
  have hcases := delimiter_cases (h c hc)
  simp only [List.mem_cons, List.not_mem_nil, or_false] at hcases
  rcases hcases with rfl | rfl | rfl | rfl | rfl | rfl | rfl | rfl | rfl | rfl
  all_goals decide

private theorem scanDigits_append {ds rest : List Char} (hne : ds ≠ [])
    (h : ∀ c ∈ ds, c.isDigit = true)
    (hrest : ∀ c ∈ rest.head?, c.isDigit = false) : scanDigits (ds ++ rest) = .ok (ds, rest) := by
  have hstop : rest.takeWhile Char.isDigit = [] ∧ rest.dropWhile Char.isDigit = rest := by
    cases rest with
    | nil => exact ⟨rfl, rfl⟩
    | cons c r => simp [hrest c rfl]
  unfold scanDigits
  rw [List.takeWhile_append_of_pos h, List.dropWhile_append_of_pos h, hstop.1, hstop.2,
    List.append_nil]
  cases ds with
  | nil => exact absurd rfl hne
  | cons d ds => rfl

end TableAudit.Json

namespace TableAudit.Json.NumberLiteral

structure WellFormed (l : NumberLiteral) : Prop where
  whole_ne : l.whole ≠ []
  whole_digits : ∀ c ∈ l.whole, c.isDigit = true
  whole_head : l.whole.head? = some '0' → l.whole.length = 1
  fraction : ∀ ds ∈ l.fraction, ds ≠ [] ∧ ∀ c ∈ ds, c.isDigit = true
  exponent : ∀ e ∈ l.exponent, e.2 ≠ [] ∧ ∀ c ∈ e.2, c.isDigit = true

def fractionChars (l : NumberLiteral) : List Char :=
  match l.fraction with
  | none => []
  | some ds => '.' :: ds

def exponentChars (l : NumberLiteral) : List Char :=
  match l.exponent with
  | none => []
  | some (negative, ds) => 'e' :: (if negative then '-' else '+') :: ds

def body (l : NumberLiteral) : List Char := l.whole ++ (l.fractionChars ++ l.exponentChars)

def chars (l : NumberLiteral) : List Char := if l.negative then '-' :: l.body else l.body

end TableAudit.Json.NumberLiteral

namespace TableAudit.Json

variable {l : NumberLiteral} {rest : List Char}

private theorem scanExponent_append (hl : l.WellFormed) (hrest : Delimited rest) :
    scanExponent (l.exponentChars ++ rest) = .ok (l.exponent, rest) := by
  have hend := not_number_of_delimited hrest
  unfold NumberLiteral.exponentChars
  cases he : l.exponent with
  | none =>
    cases rest with
    | nil => rfl
    | cons c r =>
      obtain ⟨-, -, hc⟩ := hend c rfl
      simp [scanExponent, hc]
  | some e =>
    obtain ⟨negative, ds⟩ := e
    obtain ⟨hne, hds⟩ := hl.exponent _ he
    have hscan := scanDigits_append hne hds fun c hc => (hend c hc).1
    cases negative <;> simp [scanExponent, hscan, Except.map]

private theorem head_not_isDigit (hrest : Delimited rest) :
    ∀ c ∈ (l.fractionChars ++ l.exponentChars ++ rest).head?, c.isDigit = false := by
  have hend := not_number_of_delimited hrest
  unfold NumberLiteral.fractionChars NumberLiteral.exponentChars
  split
  · split
    · exact fun c hc => (hend c hc).1
    · simp
  · simp

private theorem exponent_head_not_isDigit (hrest : Delimited rest) :
    ∀ c ∈ (l.exponentChars ++ rest).head?, c.isDigit = false ∧ c ≠ '.' := by
  have hend := not_number_of_delimited hrest
  unfold NumberLiteral.exponentChars
  split
  · exact fun c hc => ⟨(hend c hc).1, (hend c hc).2.1⟩
  · simp

private theorem scanNumber_body (hl : l.WellFormed) (hrest : Delimited rest) :
    scanNumber l.negative (l.body ++ rest) = .ok (l, rest) := by
  have hwhole := scanDigits_append hl.whole_ne hl.whole_digits (head_not_isDigit (l := l) hrest)
  have hzero : ¬ (l.whole.head? = some '0' ∧ l.whole.length ≠ 1) :=
    fun h => h.2 (hl.whole_head h.1)
  have hexp := scanExponent_append hl hrest
  unfold scanNumber NumberLiteral.body
  rw [List.append_assoc, hwhole]
  simp only [bind, Except.bind, if_neg hzero]
  cases hf : l.fraction with
  | none =>
    have hpoint := fun c hc => (exponent_head_not_isDigit (l := l) hrest c hc).2
    rw [NumberLiteral.fractionChars, hf, List.nil_append]
    split
    · next h => exact absurd rfl (hpoint '.' (by rw [h]; rfl))
    · rw [hexp, ← hf]
      rfl
  | some ds =>
    obtain ⟨hne, hds⟩ := hl.fraction ds hf
    have hscan := scanDigits_append hne hds fun c hc =>
      (exponent_head_not_isDigit (l := l) hrest c hc).1
    simp only [NumberLiteral.fractionChars, hf, List.cons_append, List.append_assoc, hscan, hexp]
    rw [← hf]
    rfl

theorem tokens_scalar {c : Char} {r r' : List Char} {t : Token} (hspace : isSpace c = false)
    (hpunct : punctuation? c = none) (h : scanToken c r = (t, some r')) :
    tokens (c :: r) = t :: tokens r' := by
  rw [tokens, if_neg (by simp [hspace])]
  simp only [hpunct]
  split
  · next h' =>
    rw [h] at h'
    cases h'
    rfl
  · next h' =>
    rw [h] at h'
    cases h'

private theorem digit_cases {c : Char} (h : c.isDigit = true) :
    c ∈ ['0', '1', '2', '3', '4', '5', '6', '7', '8', '9'] := by
  simp only [Char.isDigit, Bool.and_eq_true, decide_eq_true_eq] at h
  have low : 48 ≤ c.toNat := UInt32.le_iff_toNat_le.mp h.1
  have high : c.toNat ≤ 57 := UInt32.le_iff_toNat_le.mp h.2
  rw [← Char.ofNat_toNat c]
  generalize c.toNat = n at low high
  interval_cases n <;> decide

private theorem digit_facts {c : Char} (h : c.isDigit = true) :
    isSpace c = false ∧ punctuation? c = none ∧
      ∀ r, scanToken c r = numberToken (scanNumber false (c :: r)) := by
  have hc := digit_cases h
  simp only [List.mem_cons, List.not_mem_nil, or_false] at hc
  rcases hc with rfl | rfl | rfl | rfl | rfl | rfl | rfl | rfl | rfl | rfl
  all_goals exact ⟨rfl, rfl, fun _ => rfl⟩

theorem tokens_literal (hl : l.WellFormed) (hrest : Delimited rest) :
    tokens (l.chars ++ rest) = .number (Number.ofLiteral? l) :: tokens rest := by
  have hscan := scanNumber_body hl hrest
  unfold NumberLiteral.chars
  cases hneg : l.negative with
  | true =>
    rw [hneg] at hscan
    exact tokens_scalar rfl rfl (by simp [scanToken, hscan, numberToken])
  | false =>
    rw [hneg] at hscan
    obtain ⟨d, ds, hd⟩ := List.exists_cons_of_ne_nil hl.whole_ne
    obtain ⟨hspace, hpunct, htoken⟩ := digit_facts (hl.whole_digits d (by simp [hd]))
    have hbody : l.body ++ rest = d :: (ds ++ (l.fractionChars ++ l.exponentChars) ++ rest) := by
      rw [NumberLiteral.body, hd, List.cons_append, List.cons_append]
    rw [hbody] at hscan
    simp only [Bool.false_eq_true, if_false, hbody]
    exact tokens_scalar hspace hpunct (by rw [htoken, hscan]; rfl)

end TableAudit.Json
