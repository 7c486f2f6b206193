import TableAudit.Grid.Marks
import TableAudit.Proofs.Grid.Bits

/-! Bits and bytes stay in step, whatever is marked. -/
namespace TableAudit

namespace CodeMatrix

@[simp] theorem rows_set (m : CodeMatrix) (row col : Nat) (code : UInt8) :
    (m.set row col code).rows = m.rows := by
  unfold set; split <;> rfl

@[simp] theorem cols_set (m : CodeMatrix) (row col : Nat) (code : UInt8) :
    (m.set row col code).cols = m.cols := by
  unfold set; split <;> rfl

@[simp] theorem get_clear (rows cols row col : Nat) : (clear rows cols).get row col = 0 := by
  simp only [get, clear, Finding.clear, Array.getD_eq_getD_getElem?, Array.getElem?_replicate]
  split
  · split <;> rfl
  · rfl

theorem get_eq_zero_of_outside {m : CodeMatrix} {row col : Nat}
    (h : ¬ (row < m.rows ∧ col < m.cols)) : m.get row col = 0 := by
  rw [get, if_neg h]
  rfl

/-- Every stored byte is that of a cell. -/
theorem exists_get_of_mem {m : CodeMatrix} {b : UInt8} (h : b ∈ m.bytes) :
    ∃ row col, m.get row col = b := by
  obtain ⟨i, hi, rfl⟩ := Array.mem_iff_getElem.mp h
  have hlt : i < m.rows * m.cols := m.size_bytes ▸ hi
  have hcols : 0 < m.cols := Nat.pos_of_ne_zero fun h0 => by simp [h0] at hlt
  have hrow : i / m.cols < m.rows := Nat.div_lt_of_lt_mul (by rwa [Nat.mul_comm] at hlt)
  refine ⟨i / m.cols, i % m.cols, ?_⟩
  rw [get, if_pos ⟨hrow, Nat.mod_lt _ hcols⟩, Nat.div_add_mod']
  simp [hi]

private theorem get_set (m : CodeMatrix) (row col row' col' : Nat) (code : UInt8) :
    (m.set row col code).get row' col' =
      if row' = row ∧ col' = col ∧ row < m.rows ∧ col < m.cols then code else m.get row' col' := by
  unfold set
  split
  · rename_i h
    have hlt := CellBits.position_lt h.1 h.2
    rw [← m.size_bytes] at hlt
    simp only [get, Array.getD_eq_getD_getElem?, Array.getElem?_setIfInBounds]
    by_cases hin : row' < m.rows ∧ col' < m.cols
    · simp only [hin, and_self, if_true]
      by_cases he : row' = row ∧ col' = col
      · obtain ⟨rfl, rfl⟩ := he
        simp [hlt, h]
      · have hne : row * m.cols + col ≠ row' * m.cols + col' := fun hp =>
          he ((CellBits.position_inj h.2 hin.2 hp).imp Eq.symm Eq.symm)
        rw [if_neg hne, if_neg (fun hc => he ⟨hc.1, hc.2.1⟩)]
    · rw [if_neg hin, if_neg hin, if_neg]
      rintro ⟨rfl, rfl, hr, hc⟩
      exact hin ⟨hr, hc⟩
  · rename_i h
    rw [if_neg (fun hc => h hc.2.2)]

end CodeMatrix

namespace Marks

/-- The bits and the bytes are those of one table of this size. -/
structure Agree (m : Marks) (rows cols : Nat) : Prop where
  bits_rows : m.bits.rows = rows
  bits_cols : m.bits.cols = cols
  codes_rows : m.codes.rows = rows
  codes_cols : m.codes.cols = cols
  tidy : m.bits.Tidy
  contains_iff : ∀ row col, m.bits.contains row col = true ↔ m.codes.get row col ≠ 0

theorem agree_clear (rows cols : Nat) : (clear rows cols).Agree rows cols where
  bits_rows := rfl
  bits_cols := rfl
  codes_rows := rfl
  codes_cols := rfl
  tidy := CellBits.tidy_empty rows cols
  contains_iff row col := by simp [clear]

theorem Agree.get_mark {m : Marks} {rows cols : Nat} (h : m.Agree rows cols) (row col : Nat)
    (f : Finding) (row' col' : Nat) :
    (m.mark row col f).codes.get row' col' =
      if row' = row ∧ col' = col ∧ row < rows ∧ col < cols then f.toByte
      else m.codes.get row' col' := by
  rw [mark, CodeMatrix.get_set, h.codes_rows, h.codes_cols]

theorem Agree.mark {m : Marks} {rows cols : Nat} (h : m.Agree rows cols) (row col : Nat)
    {f : Finding} (hf : f.toByte ≠ 0) : (m.mark row col f).Agree rows cols where
  bits_rows := (CellBits.rows_insert _ _ _).trans h.bits_rows
  bits_cols := (CellBits.cols_insert _ _ _).trans h.bits_cols
  codes_rows := (CodeMatrix.rows_set _ _ _ _).trans h.codes_rows
  codes_cols := (CodeMatrix.cols_set _ _ _ _).trans h.codes_cols
  tidy := h.tidy.insert row col
  contains_iff row' col' := by
    rw [h.get_mark, Marks.mark, CellBits.contains_insert, h.contains_iff, h.bits_rows, h.bits_cols]
    split
    · rename_i hin
      simp [hin, hf]
    · rename_i hout
      simp [hout]

end Marks
end TableAudit
