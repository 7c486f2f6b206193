import TableAudit.Json.Token

/-! The token list of a text. Every token takes at least one character, so the list is found by
recursion on the length of what is left. -/
namespace TableAudit.Json

private theorem length_scanString {s r : List Char} (h : (scanString s).2 = .ok r) :
    r.length < s.length := by
  fun_induction scanString s <;> simp_all <;> omega

private theorem length_scanWord {w s r : List Char} (h : scanWord w s = .ok r) :
    r.length ≤ s.length := by
  fun_induction scanWord w s <;> simp_all
  omega

private theorem length_scanDigits {s r ds : List Char} (h : scanDigits s = .ok (ds, r)) :
    r.length < s.length := by
  have hl := congrArg List.length (List.takeWhile_append_dropWhile (p := Char.isDigit) (l := s))
  rw [List.length_append] at hl
  unfold scanDigits at h
  generalize s.takeWhile Char.isDigit = taken at h hl
  split at h <;> simp_all
  cases ds <;> simp_all
  omega

private theorem length_scanExponent {s r : List Char} {e} (h : scanExponent s = .ok (e, r)) :
    r.length ≤ s.length := by
  unfold scanExponent at h
  split at h
  · split at h
    · simp only [Except.map] at h
      split at h
      · simp at h
      · next v hv =>
        have := length_scanDigits hv
        simp only [Except.ok.injEq, Prod.mk.injEq] at h
        rw [← h.2]
        split at this <;> simp_all <;> omega
    · simp_all
  · simp_all

private theorem length_scanNumber {b : Bool} {s r : List Char} {l}
    (h : scanNumber b s = .ok (l, r)) : r.length < s.length := by
  unfold scanNumber at h
  simp only [bind, Except.bind] at h
  split at h
  · simp at h
  · next v hv =>
    have h1 := length_scanDigits hv
    split at h
    · simp at h
    · split at h
      · split at h
        · simp at h
        · next w hw =>
          have h2 := length_scanDigits hw
          split at h
          · simp at h
          · next x hx =>
            have h3 := length_scanExponent hx
            simp_all [pure, Except.pure]
            omega
      · split at h
        · simp at h
        · next x hx =>
          have h3 := length_scanExponent hx
          simp_all [pure, Except.pure]
          omega

private theorem length_scanToken {c : Char} {s r : List Char} (h : (scanToken c s).2 = some r) :
    r.length ≤ s.length := by
  have hn : ∀ {b t}, (numberToken (scanNumber b t)).2 = some r → r.length < t.length := by
    intro b t h
    unfold numberToken at h
    split at h <;> simp_all
    exact length_scanNumber ‹_›
  have hw : ∀ {t w}, (wordToken t (scanWord w s)).2 = some r → r.length ≤ s.length := by
    intro t w h
    unfold wordToken at h
    split at h <;> simp_all
    exact length_scanWord ‹_›
  unfold scanToken at h
  split at h
  · split at h
    · next ps t ht =>
      have := length_scanString (s := s) (r := t) (by rw [ht])
      simp_all
      omega
    · simp at h
  · exact hw h
  · exact hw h
  · exact hw h
  · exact Nat.le_of_lt (hn h)
  · split at h
    · have := hn h
      simp only [List.length_cons] at this
      omega
    · simp at h

/-- The tokens of a text, up to the first broken one. -/
def tokens : List Char → List Token
  | [] => []
  | c :: r =>
    if isSpace c then tokens r
    else
      match punctuation? c with
      | some t => t :: tokens r
      | none =>
        match h : scanToken c r with
        | (t, some r') =>
          have : r'.length ≤ r.length := length_scanToken (by rw [h])
          t :: tokens r'
        | (t, none) => [t]
termination_by s => s.length

end TableAudit.Json
