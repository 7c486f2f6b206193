import Mathlib.Data.List.TakeWhile
import TableAudit.Text.Blank

/-! A text is what trimming leaves of it and the blanks that it takes off. -/
namespace TableAudit.Text

def Blanks (gap : List Char) : Prop := ∀ c ∈ gap, isBlank c = true

structure Trimmed (cs : List Char) : Prop where
  head : ∀ c ∈ cs.head?, isBlank c = false
  last : ∀ c ∈ cs.getLast?, isBlank c = false

variable {cs gap rest : List Char}

theorem Trimmed.trim_eq (h : Trimmed cs) : trim cs = cs := by
  rw [trim, trimStart_eq_self h.head, trimEnd_eq_self h.last]

theorem exists_trimStart (cs : List Char) : ∃ gap, Blanks gap ∧ cs = gap ++ trimStart cs :=
  ⟨cs.takeWhile isBlank, fun _ hc => List.mem_takeWhile_imp hc, List.takeWhile_append_dropWhile.symm⟩

theorem exists_trimEnd (cs : List Char) : ∃ gap, Blanks gap ∧ cs = trimEnd cs ++ gap := by
  obtain ⟨gap, hgap, hcs⟩ := exists_trimStart cs.reverse
  refine ⟨gap.reverse, fun c hc => hgap c (List.mem_reverse.mp hc), ?_⟩
  rw [trimStart] at hcs
  rw [trimEnd, ← List.reverse_append, ← hcs, List.reverse_reverse]

theorem trimStart_append (hgap : Blanks gap) (h : ∀ c ∈ rest.head?, isBlank c = false) :
    trimStart (gap ++ rest) = rest := by
  rw [trimStart, List.dropWhile_append_of_pos hgap]
  exact trimStart_eq_self h

theorem trimEnd_append (hgap : Blanks gap) (h : ∀ c ∈ rest.getLast?, isBlank c = false) :
    trimEnd (rest ++ gap) = rest := by
  have hstart : trimStart (gap.reverse ++ rest.reverse) = rest.reverse :=
    trimStart_append (fun c hc => hgap c (List.mem_reverse.mp hc)) (by simpa using h)
  rw [trimStart] at hstart
  rw [trimEnd, List.reverse_append, hstart, List.reverse_reverse]

private theorem head_trimStart (cs : List Char) :
    ∀ c ∈ (trimStart cs).head?, isBlank c = false := by
  intro c hc
  have h := List.head?_dropWhile_not isBlank cs
  rw [trimStart] at hc
  rw [Option.mem_def.mp hc] at h
  simpa using h

private theorem last_trimEnd (cs : List Char) : ∀ c ∈ (trimEnd cs).getLast?, isBlank c = false := by
  have h := head_trimStart cs.reverse
  rw [trimStart] at h
  rw [trimEnd, List.getLast?_reverse]
  exact h

theorem last_of_append (h : ∀ c ∈ (gap ++ rest).getLast?, isBlank c = false) :
    ∀ c ∈ rest.getLast?, isBlank c = false := by
  intro c hc
  apply h
  rw [List.getLast?_append, Option.mem_def.mp hc]
  rfl

theorem head_of_append (h : ∀ c ∈ (rest ++ gap).head?, isBlank c = false) :
    ∀ c ∈ rest.head?, isBlank c = false := by
  intro c hc
  apply h
  rw [List.head?_append, Option.mem_def.mp hc]
  rfl

theorem trimmed_trimStart (h : ∀ c ∈ cs.getLast?, isBlank c = false) : Trimmed (trimStart cs) := by
  obtain ⟨gap, -, hcs⟩ := exists_trimStart cs
  rw [hcs] at h
  exact ⟨head_trimStart cs, last_of_append h⟩

theorem trimmed_trimEnd (h : ∀ c ∈ cs.head?, isBlank c = false) : Trimmed (trimEnd cs) := by
  obtain ⟨gap, -, hcs⟩ := exists_trimEnd cs
  rw [hcs] at h
  exact ⟨head_of_append h, last_trimEnd cs⟩

theorem trimmed_trim (cs : List Char) : Trimmed (trim cs) := trimmed_trimEnd (head_trimStart cs)

end TableAudit.Text
