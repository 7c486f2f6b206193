import Mathlib.Data.List.TakeWhile
import TableAudit.Locale.Number

/-! Texts cut at marks, read back as the pieces and the marks between them. -/
namespace TableAudit.Text

section Cut

variable {mark : Char} {cs before after : List Char}

theorem cut_append (h : mark ∉ before) (after : List Char) :
    cut mark (before ++ mark :: after) = (before, some after) := by
  have hne : ∀ c ∈ before, (c != mark) = true := by
    intro c hc
    rw [bne_iff_ne]
    rintro rfl
    exact h hc
  rw [cut, List.dropWhile_append_of_pos hne, List.takeWhile_append_of_pos hne]
  simp

theorem cut_of_not_mem (h : mark ∉ cs) : cut mark cs = (cs, none) := by
  have hne : cs.dropWhile (· != mark) = [] := by
    rw [List.dropWhile_eq_nil_iff]
    intro c hc
    rw [bne_iff_ne]
    rintro rfl
    exact h hc
  rw [cut, hne]

/-- A text is cut at the first mark, if it has one. -/
theorem cut_cases (mark : Char) (cs : List Char) :
    mark ∉ cs ∧ cut mark cs = (cs, none) ∨
      ∃ before after, mark ∉ before ∧ cs = before ++ mark :: after ∧
        cut mark cs = (before, some after) := by
  by_cases h : mark ∈ cs
  · obtain ⟨before, after, rfl, hbefore⟩ := List.eq_append_cons_of_mem h
    exact .inr ⟨before, after, hbefore, rfl, cut_append hbefore after⟩
  · exact .inl ⟨h, cut_of_not_mem h⟩

end Cut

section Parts

variable {isMark : Char → Bool} {cs p : List Char}

theorem parts_ne_nil (isMark : Char → Bool) (cs : List Char) : parts isMark cs ≠ [] := by
  induction cs with
  | nil => simp [parts]
  | cons c cs ih =>
    obtain ⟨q, qs, hq⟩ := List.exists_cons_of_ne_nil ih
    simp only [parts, hq]
    split <;> simp

theorem parts_of_forall (h : ∀ c ∈ p, isMark c = false) : parts isMark p = [p] := by
  induction p with
  | nil => rfl
  | cons c p ih =>
    rw [List.forall_mem_cons] at h
    simp [parts, ih h.2, h.1]

theorem parts_append (h : ∀ c ∈ p, isMark c = false) {m : Char} (hm : isMark m = true)
    (rest : List Char) : parts isMark (p ++ m :: rest) = p :: parts isMark rest := by
  obtain ⟨q, qs, hq⟩ := List.exists_cons_of_ne_nil (parts_ne_nil isMark rest)
  induction p with
  | nil => simp [parts, hq, hm]
  | cons c p ih =>
    rw [List.forall_mem_cons] at h
    simp [parts, ih h.2, h.1]

/-- The first part of a text, and what stands behind it. -/
theorem parts_cases (isMark : Char → Bool) (cs : List Char) :
    (∀ c ∈ cs, isMark c = false) ∧ parts isMark cs = [cs] ∨
      ∃ p m rest, (∀ c ∈ p, isMark c = false) ∧ isMark m = true ∧ cs = p ++ m :: rest ∧
        parts isMark cs = p :: parts isMark rest := by
  by_cases h : ∀ c ∈ cs, isMark c = false
  · exact .inl ⟨h, parts_of_forall h⟩
  · have hfind : (cs.find? isMark).isSome = true := by
      rw [List.find?_isSome]
      simpa using h
    obtain ⟨m, hm⟩ := Option.isSome_iff_exists.mp hfind
    obtain ⟨hmark, p, rest, rfl, hp⟩ := List.find?_eq_some_iff_append.mp hm
    have hp : ∀ c ∈ p, isMark c = false := by simpa using hp
    exact .inr ⟨p, m, rest, hp, hmark, rfl, parts_append hp hmark rest⟩

end Parts
end TableAudit.Text
