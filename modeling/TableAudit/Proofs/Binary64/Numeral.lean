import Mathlib.Data.List.TakeWhile
import TableAudit.Binary64.Numeral

/-! A sign, digits and digits behind a point are read as the number that they say, however many
there are, and a text of a finite number is a numeral behind its sign. -/
namespace TableAudit

section Digits

variable {c : Char} {ds : List Char}

private theorem toLower_of_isDigit (h : c.isDigit = true) : c.toLower = c := by
  simp only [Char.isDigit, Bool.and_eq_true, decide_eq_true_eq] at h
  refine dif_neg ?_
  rintro ⟨hupper, -⟩
  have hle := UInt32.le_trans hupper h.2
  exact absurd hle (by decide)

/-- A digit is neither a sign nor a mark nor the first letter of a word. -/
theorem ne_of_isDigit (h : c.isDigit = true) {d : Char} (hd : d.isDigit = false) : c ≠ d := by
  rintro rfl
  rw [h] at hd
  cases hd

private theorem takeWhile_isDigit (h : ∀ c ∈ ds, c.isDigit = true) {r : List Char}
    (hr : ∀ c ∈ r.head?, c.isDigit = false) :
    (ds ++ r).takeWhile Char.isDigit = ds ∧ (ds ++ r).dropWhile Char.isDigit = r := by
  rw [List.takeWhile_append_of_pos h, List.dropWhile_append_of_pos h]
  cases r with
  | nil => simp
  | cons c r => simp [hr c rfl]

end Digits

namespace Numeral

theorem takeSign_of_isDigit {d : Char} (h : d.isDigit = true) (r : List Char) :
    takeSign (d :: r) = (false, d :: r) := by
  have hminus := ne_of_isDigit h (d := '-') rfl
  have hplus := ne_of_isDigit h (d := '+') rfl
  rw [takeSign.eq_def]
  split
  · next heq => exact absurd (List.cons.inj heq).1 hminus
  · next heq => exact absurd (List.cons.inj heq).1 hplus
  · rfl

def tail : Option (List Char) → List Char
  | none => []
  | some fs => '.' :: fs

/-- Digits with a point among them or without one are a numeral. -/
theorem unsigned?_eq (negative : Bool) {ds : List Char} {fraction : Option (List Char)}
    (hne : ds ≠ [] ∨ fraction.getD [] ≠ []) (hds : ∀ c ∈ ds, c.isDigit = true)
    (hfs : ∀ fs ∈ fraction, ∀ c ∈ fs, c.isDigit = true) :
    unsigned? negative (ds ++ tail fraction) = some ⟨negative, ds, fraction.getD [], 0⟩ := by
  have hhead : ∀ c ∈ (tail fraction).head?, c.isDigit = false := by
    intro c hc
    cases fraction <;> cases hc
    rfl
  obtain ⟨htake, hdrop⟩ := takeWhile_isDigit hds hhead
  rw [unsigned?, htake, hdrop]
  cases fraction with
  | none => simpa [tail, exponent?] using hne
  | some fs =>
    obtain ⟨htake, hdrop⟩ := takeWhile_isDigit (r := []) (hfs fs rfl) (by simp)
    rw [List.append_nil] at htake hdrop
    simpa [tail, exponent?, htake, hdrop, ← not_or, imp_iff_not_or] using hne

/-- A numeral is digits, perhaps the digits of a fraction, and an exponent. -/
theorem exists_of_unsigned? {negative : Bool} {s : List Char} {n : Numeral}
    (h : unsigned? negative s = some n) : ∃ ds fraction rest,
      s = ds ++ tail fraction ++ rest ∧ (∀ c ∈ ds, c.isDigit = true) ∧
      (∀ fs ∈ fraction, ∀ c ∈ fs, c.isDigit = true) ∧ (ds ≠ [] ∨ fraction.getD [] ≠ []) ∧
      ∃ e, exponent? rest = some e ∧ n = ⟨negative, ds, fraction.getD [], e⟩ := by
  have hdigits (r : List Char) : ∀ c ∈ r.takeWhile Char.isDigit, c.isDigit = true :=
    fun _ => List.mem_takeWhile_imp
  have hs := List.takeWhile_append_dropWhile (p := Char.isDigit) (l := s)
  have hds := hdigits s
  rw [unsigned?] at h
  generalize s.takeWhile Char.isDigit = ds at h hs hds
  generalize s.dropWhile Char.isDigit = r at h hs
  have hread {fs rest : List Char} (h : (if ds.isEmpty && fs.isEmpty then none
      else (exponent? rest).map (mk negative ds fs)) = some n) :
      (ds ≠ [] ∨ fs ≠ []) ∧ ∃ e, exponent? rest = some e ∧ n = ⟨negative, ds, fs, e⟩ := by
    split_ifs at h with hempty
    obtain ⟨e, he, rfl⟩ := Option.map_eq_some_iff.mp h
    rw [Bool.and_eq_true, List.isEmpty_iff, List.isEmpty_iff, not_and_or] at hempty
    exact ⟨hempty, e, he, rfl⟩
  split at h
  · next r =>
    have hr := List.takeWhile_append_dropWhile (p := Char.isDigit) (l := r)
    refine ⟨ds, some (r.takeWhile Char.isDigit), r.dropWhile Char.isDigit, ?_, hds, ?_, hread h⟩
    · rw [← hs, tail, List.append_assoc, List.cons_append, hr]
    · rintro _ ⟨⟩
      exact hdigits r
  · exact ⟨ds, none, r, by rw [tail, List.append_nil, hs], hds, by simp, hread h⟩

/-- A text is its sign, if it has one, and what stands behind it. -/
theorem exists_takeSign (s : List Char) :
    ∃ sign, (∀ c ∈ sign, c = '+' ∨ c = '-') ∧ s = sign ++ (takeSign s).2 := by
  rw [takeSign.eq_def]
  split
  · exact ⟨['-'], by simp, rfl⟩
  · exact ⟨['+'], by simp, rfl⟩
  · exact ⟨[], by simp, rfl⟩

def IsMark (c : Char) : Prop := c = '+' ∨ c = '-' ∨ c = '.' ∨ c = 'e' ∨ c = 'E'

theorem exists_of_exponent? {c : Char} {r : List Char} {e : Int} (h : exponent? (c :: r) = some e) :
    (c = 'e' ∨ c = 'E') ∧ ∀ d ∈ (takeSign r).2, d.isDigit = true := by
  rw [exponent?] at h
  split_ifs at h with hc
  refine ⟨hc, ?_⟩
  dsimp only at h
  split at h
  · cases h
  · next hds =>
    rw [Bool.or_eq_true, not_or] at hds
    simpa using hds.2

private theorem mem_of_unsigned? {negative : Bool} {s : List Char} {n : Numeral}
    (h : unsigned? negative s = some n) : ∀ c ∈ s, c.isDigit = true ∨ IsMark c := by
  obtain ⟨ds, fraction, rest, rfl, hds, hfs, -, e, he, -⟩ := exists_of_unsigned? h
  intro c hc
  rcases List.mem_append.mp hc with hc | hc
  · rcases List.mem_append.mp hc with hc | hc
    · exact .inl (hds c hc)
    · cases fraction with
      | none => cases hc
      | some fs =>
        rcases List.mem_cons.mp hc with rfl | hc
        · exact .inr (.inr (.inr (.inl rfl)))
        · exact .inl (hfs fs rfl c hc)
  · cases rest with
    | nil => cases hc
    | cons d r =>
      obtain ⟨hd, hr⟩ := exists_of_exponent? he
      obtain ⟨sign, hsign, heq⟩ := exists_takeSign r
      rw [heq, List.mem_cons, List.mem_append] at hc
      rcases hc with rfl | hc | hc
      · exact .inr (.inr (.inr (.inr hd)))
      · exact .inr ((hsign c hc).imp_right .inl)
      · exact .inl (hr c hc)

/-- A zero in front of a numeral without an exponent does not count. -/
theorem toBinary64_zero_cons (negative : Bool) (ds fs : List Char) :
    toBinary64 ⟨negative, '0' :: ds, fs, 0⟩ = toBinary64 ⟨negative, ds, fs, 0⟩ := by
  have hvalue : Decimal.value ('0' :: ds ++ fs) = Decimal.value (ds ++ fs) := by
    simp [Decimal.value, Decimal.digitValue]
  have hsize (whole : List Char) : ¬ ((0 - fs.length : Int) + (whole ++ fs).length < -400) := by
    rw [List.length_append]
    omega
  unfold toBinary64 nearest
  dsimp only
  rw [hvalue, if_neg (hsize ('0' :: ds)), if_neg (hsize ds)]

end Numeral

namespace Binary64

private theorem word?_of_isDigit (negative : Bool) {d : Char} (h : d.isDigit = true)
    (r : List Char) : word? negative (d :: r) = none := by
  have hi := ne_of_isDigit h (d := 'i') rfl
  have hn := ne_of_isDigit h (d := 'n') rfl
  simp [word?, toLower_of_isDigit h, hi, hn]

theorem finiteOfText?_eq_some_iff {s : List Char} {x : Binary64} :
    finiteOfText? s = some x ↔ ofText? s = some x ∧ x.isFinite = true := Option.filter_eq_some_iff

/-- A sign, digits and the digits of a fraction spell a number. -/
theorem ofText?_eq (negative : Bool) {ds : List Char} (hne : ds ≠ [])
    (hds : ∀ c ∈ ds, c.isDigit = true) {fraction : Option (List Char)}
    (hfs : ∀ fs ∈ fraction, ∀ c ∈ fs, c.isDigit = true) :
    ofText? ((if negative then ['-'] else []) ++ ds ++ Numeral.tail fraction) =
      some (Numeral.toBinary64 ⟨negative, ds, fraction.getD [], 0⟩) := by
  obtain ⟨d, r, hd⟩ := List.exists_cons_of_ne_nil hne
  have hdigit := hds d (by simp [hd])
  have hsign : Numeral.takeSign ((if negative then ['-'] else []) ++ ds ++ Numeral.tail fraction) =
      (negative, ds ++ Numeral.tail fraction) := by
    cases negative with
    | true => rfl
    | false =>
      rw [hd]
      exact Numeral.takeSign_of_isDigit hdigit _
  have hword : word? negative (ds ++ Numeral.tail fraction) = none := by
    rw [hd]
    exact word?_of_isDigit negative hdigit _
  rw [ofText?, hsign]
  simp only [hword]
  rw [Numeral.unsigned?_eq negative (.inl hne) hds hfs]
  rfl

private theorem not_isFinite_of_word? {negative : Bool} {s : List Char} {x : Binary64}
    (h : word? negative s = some x) : x.isFinite = false := by
  rw [word?] at h
  split_ifs at h
  · cases h
    cases negative <;> rfl
  · cases h
    rfl

private theorem exists_numeral_of_ofText? {s : List Char} {x : Binary64} (h : ofText? s = some x)
    (hx : x.isFinite = true) :
    ∃ n, Numeral.unsigned? (Numeral.takeSign s).1 (Numeral.takeSign s).2 = some n ∧
      n.toBinary64 = x := by
  simp only [ofText?] at h
  cases hword : word? (Numeral.takeSign s).1 (Numeral.takeSign s).2 with
  | some y =>
    rw [hword] at h
    cases h
    rw [not_isFinite_of_word? hword] at hx
    cases hx
  | none =>
    rw [hword] at h
    exact Option.map_eq_some_iff.mp h

private theorem word?_of_unsigned? {negative : Bool} {s : List Char} {n : Numeral}
    (h : Numeral.unsigned? negative s = some n) : word? negative s = none := by
  obtain ⟨ds, fraction, rest, rfl, hds, -, hne, -⟩ := Numeral.exists_of_unsigned? h
  cases ds with
  | cons d ds => exact word?_of_isDigit negative (hds d List.mem_cons_self) _
  | nil =>
    cases fraction with
    | none => simp at hne
    | some fs => simp [word?, Numeral.tail]

theorem finiteOfText?_eq_some_iff_numeral {s : List Char} {x : Binary64} :
    finiteOfText? s = some x ↔
      ∃ n, Numeral.unsigned? (Numeral.takeSign s).1 (Numeral.takeSign s).2 = some n ∧
        n.toBinary64 = x ∧ x.isFinite = true := by
  rw [finiteOfText?_eq_some_iff]
  constructor
  · rintro ⟨htext, hx⟩
    obtain ⟨n, hn, hnx⟩ := exists_numeral_of_ofText? htext hx
    exact ⟨n, hn, hnx, hx⟩
  · rintro ⟨n, hn, hnx, hx⟩
    refine ⟨?_, hx⟩
    simp only [ofText?, word?_of_unsigned? hn, hn, Option.map_some, hnx]

theorem mem_of_ofText? {s : List Char} {x : Binary64} (h : ofText? s = some x)
    (hx : x.isFinite = true) : ∀ c ∈ s, c.isDigit = true ∨ Numeral.IsMark c := by
  obtain ⟨n, hn, -⟩ := exists_numeral_of_ofText? h hx
  obtain ⟨sign, hsign, heq⟩ := Numeral.exists_takeSign s
  intro c hc
  rw [heq] at hc
  rcases List.mem_append.mp hc with hc | hc
  · exact .inr ((hsign c hc).imp_right .inl)
  · exact Numeral.mem_of_unsigned? hn c hc

end Binary64
end TableAudit
