import Mathlib.Data.List.Dedup
import Mathlib.Data.List.Sort
import Mathlib.Data.Prod.Lex
import TableAudit.Grid.Bits

/-! Packed bits as a set of cells, which the positions list in row order. -/
namespace TableAudit

theorem pairwise_zipIdx {α : Type} (l : List α) : l.zipIdx.Pairwise fun x y => x.2 < y.2 := by
  rw [← List.pairwise_map (f := Prod.snd) (R := (· < ·)), List.zipIdx_map_snd]
  exact List.pairwise_lt_range'

namespace CellBits

/-- No bit is set behind the last cell. -/
def Tidy (b : CellBits) : Prop := ∀ i, b.rows * b.cols ≤ i → b.bit i = false

private theorem position?_eq_some_iff {b : CellBits} {row col i : Nat} :
    b.position? row col = some i ↔ row < b.rows ∧ col < b.cols ∧ i = row * b.cols + col := by
  unfold position?
  split
  · rename_i h
    simp [h, eq_comm]
  · rename_i h
    simp only [reduceCtorEq, false_iff]
    exact fun ⟨hr, hc, _⟩ => h ⟨hr, hc⟩

theorem position_lt {rows cols row col : Nat} (hr : row < rows) (hc : col < cols) :
    row * cols + col < rows * cols := by
  rw [Nat.mul_comm row]
  exact Nat.mul_add_lt_mul_of_lt_of_lt hr hc

private theorem div_position {cols row col : Nat} (hc : col < cols) :
    (row * cols + col) / cols = row := by
  rw [Nat.mul_comm, Nat.mul_add_div (by omega), Nat.div_eq_of_lt hc, Nat.add_zero]

theorem position_inj {cols row col row' col' : Nat} (hc : col < cols) (hc' : col' < cols)
    (h : row * cols + col = row' * cols + col') : row = row' ∧ col = col' := by
  have hr := congrArg (· / cols) h
  have hm := congrArg (· % cols) h
  simp only [div_position hc, div_position hc', Nat.mul_add_mod_of_lt hc, Nat.mul_add_mod_of_lt hc'] at hr hm
  exact ⟨hr, hm⟩

theorem contains_eq_true_iff {b : CellBits} {row col : Nat} :
    b.contains row col = true ↔
      row < b.rows ∧ col < b.cols ∧ b.bit (row * b.cols + col) = true := by
  simp only [contains, Option.any_eq_true]
  constructor
  · rintro ⟨i, hi, hb⟩
    obtain ⟨hr, hc, rfl⟩ := position?_eq_some_iff.mp hi
    exact ⟨hr, hc, hb⟩
  · rintro ⟨hr, hc, hb⟩
    exact ⟨_, position?_eq_some_iff.mpr ⟨hr, hc, rfl⟩, hb⟩

@[simp] theorem rows_empty (rows cols : Nat) : (empty rows cols).rows = rows := rfl

@[simp] theorem cols_empty (rows cols : Nat) : (empty rows cols).cols = cols := rfl

@[simp] theorem rows_insert (b : CellBits) (row col : Nat) : (b.insert row col).rows = b.rows := by
  unfold insert; split <;> rfl

@[simp] theorem cols_insert (b : CellBits) (row col : Nat) : (b.insert row col).cols = b.cols := by
  unfold insert; split <;> rfl

@[simp] theorem bit_empty (rows cols i : Nat) : (empty rows cols).bit i = false := by
  simp only [bit, empty, Array.getD_eq_getD_getElem?, Array.getElem?_replicate]
  split <;> simp

private theorem bit_insert (b : CellBits) (row col i : Nat) :
    (b.insert row col).bit i = (b.bit i || decide (b.position? row col = some i)) := by
  unfold insert
  cases h : b.position? row col with
  | none => simp
  | some k =>
    obtain ⟨hr, hc, rfl⟩ := position?_eq_some_iff.mp h
    have hk := position_lt hr hc
    have hw : (row * b.cols + col) / 32 < b.words.size := by rw [b.size_words]; omega
    simp only [bit, Array.getD_eq_getD_getElem?, Array.getElem?_modify, Option.some.injEq]
    by_cases hi : (row * b.cols + col) / 32 = i / 32
    · rw [if_pos hi]
      rw [hi] at hw
      simp only [Array.getElem?_eq_getElem hw, Option.map_some, Option.getD_some,
        BitVec.getLsbD_or, BitVec.getLsbD_twoPow]
      congr 1
      rw [← Bool.decide_and, decide_eq_decide]
      omega
    · have hne : row * b.cols + col ≠ i := fun he => hi (by rw [he])
      simp [hi, hne]

theorem contains_insert {b : CellBits} {row col row' col' : Nat} :
    (b.insert row col).contains row' col' = true ↔
      b.contains row' col' = true ∨ row' = row ∧ col' = col ∧ row < b.rows ∧ col < b.cols := by
  simp only [contains_eq_true_iff, rows_insert, cols_insert, bit_insert, Bool.or_eq_true,
    decide_eq_true_eq, position?_eq_some_iff]
  constructor
  · rintro ⟨hr, hc, hb | ⟨hr', hc', he⟩⟩
    · exact .inl ⟨hr, hc, hb⟩
    · obtain ⟨h1, h2⟩ := position_inj hc hc' he
      exact .inr ⟨h1, h2, hr', hc'⟩
  · rintro (⟨hr, hc, hb⟩ | ⟨rfl, rfl, hr, hc⟩)
    · exact ⟨hr, hc, .inl hb⟩
    · exact ⟨hr, hc, .inr ⟨hr, hc, rfl⟩⟩

@[simp] theorem contains_empty (rows cols row col : Nat) :
    (empty rows cols).contains row col = false := by
  rw [← Bool.not_eq_true, contains_eq_true_iff]
  simp

theorem tidy_empty (rows cols : Nat) : (empty rows cols).Tidy := fun i _ => bit_empty rows cols i

theorem Tidy.insert {b : CellBits} (h : b.Tidy) (row col : Nat) : (b.insert row col).Tidy := by
  intro i hi
  rw [rows_insert, cols_insert] at hi
  rw [bit_insert, h i hi, Bool.false_or, decide_eq_false_iff_not, position?_eq_some_iff]
  rintro ⟨hr, hc, rfl⟩
  have := position_lt hr hc
  omega

theorem mem_bitsOf {w : BitVec 32} {j : Nat} : j ∈ bitsOf w ↔ w.getLsbD j = true := by
  unfold bitsOf
  split
  · rename_i h
    simp [h]
  · simp only [List.mem_filter, List.mem_range, and_iff_right_iff_imp]
    exact BitVec.lt_of_getLsbD

theorem pairwise_bitsOf (w : BitVec 32) : (bitsOf w).Pairwise (· < ·) := by
  unfold bitsOf
  split
  · exact List.Pairwise.nil
  · exact List.pairwise_lt_range.filter _

theorem mem_positions {b : CellBits} {i : Nat} :
    i ∈ b.positions ↔ i < b.rows * b.cols ∧ b.bit i = true := by
  simp only [positions, List.mem_filter, List.mem_flatMap, List.mem_map, Prod.exists,
    List.mem_zipIdx_iff_getElem?, mem_bitsOf, decide_eq_true_eq, and_comm (b := i < _)]
  apply and_congr_right
  intro _
  simp only [bit, Array.getD_eq_getD_getElem?, Array.getElem?_toList]
  constructor
  · rintro ⟨w, k, hw, j, hj, rfl⟩
    have hj' := BitVec.lt_of_getLsbD hj
    rw [show (32 * k + j) / 32 = k by omega, show (32 * k + j) % 32 = j by omega, hw]
    exact hj
  · intro hb
    cases hw : b.words[i / 32]? with
    | none => simp [hw] at hb
    | some w => exact ⟨w, i / 32, hw, i % 32, by simpa [hw] using hb, Nat.div_add_mod i 32⟩

theorem pairwise_positions (b : CellBits) : b.positions.Pairwise (· < ·) := by
  apply List.Pairwise.filter
  rw [List.pairwise_flatMap]
  constructor
  · intro x _
    exact (pairwise_bitsOf x.1).map _ fun i j h => by omega
  · apply (pairwise_zipIdx b.words.toList).imp
    intro x y hxy i hi j hj
    obtain ⟨u, hu, rfl⟩ := List.mem_map.mp hi
    obtain ⟨v, _, rfl⟩ := List.mem_map.mp hj
    have := BitVec.lt_of_getLsbD (mem_bitsOf.mp hu)
    omega

private theorem Tidy.lt_of_mem_bitsOf {b : CellBits} (h : b.Tidy) {w : BitVec 32} {k j : Nat}
    (hw : b.words[k]? = some w) (hj : j ∈ bitsOf w) : 32 * k + j < b.rows * b.cols := by
  by_contra hlt
  have hj' := BitVec.lt_of_getLsbD (mem_bitsOf.mp hj)
  have hb := h _ (Nat.le_of_not_lt hlt)
  rw [bit, show (32 * k + j) / 32 = k by omega, show (32 * k + j) % 32 = j by omega,
    Array.getD_eq_getD_getElem?, hw, Option.getD_some, mem_bitsOf.mp hj] at hb
  exact Bool.noConfusion hb

/-- Without bits behind the last cell, the positions are those of all set bits. -/
theorem Tidy.positions_eq {b : CellBits} (h : b.Tidy) :
    b.positions = b.words.toList.zipIdx.flatMap fun (w, k) => (bitsOf w).map (32 * k + ·) := by
  refine List.filter_eq_self.mpr fun i hi => ?_
  obtain ⟨⟨w, k⟩, hw, hi⟩ := List.mem_flatMap.mp hi
  obtain ⟨j, hj, rfl⟩ := List.mem_map.mp hi
  rw [List.mem_zipIdx_iff_getElem?, Array.getElem?_toList] at hw
  exact decide_eq_true (h.lt_of_mem_bitsOf hw hj)

theorem Tidy.count_eq {b : CellBits} (h : b.Tidy) : b.count = b.positions.length := by
  rw [h.positions_eq, count, List.length_flatMap, List.length_flatMap]
  simp only [List.length_map]
  rw [← Function.comp_def (fun w => (bitsOf w).length) Prod.fst, ← List.map_map,
    List.zipIdx_map_fst]

theorem mem_cells {b : CellBits} {row col : Nat} :
    (row, col) ∈ b.cells ↔ b.contains row col = true := by
  simp only [cells, List.mem_map, mem_positions, contains_eq_true_iff, Prod.mk.injEq]
  constructor
  · rintro ⟨i, ⟨hi, hb⟩, rfl, rfl⟩
    have hc : 0 < b.cols := Nat.pos_of_ne_zero fun h => by simp [h] at hi
    refine ⟨Nat.div_lt_of_lt_mul (by rwa [Nat.mul_comm] at hi), Nat.mod_lt _ hc, ?_⟩
    rwa [Nat.div_add_mod']
  · rintro ⟨hr, hc, hb⟩
    exact ⟨_, ⟨position_lt hr hc, hb⟩, div_position hc, Nat.mul_add_mod_of_lt hc⟩

theorem pairwise_cells (b : CellBits) :
    b.cells.Pairwise (Prod.Lex (· < ·) (· < ·)) := by
  apply (pairwise_positions b).map
  intro i j hij
  rw [Prod.lex_def]
  rcases Nat.lt_or_eq_of_le (Nat.div_le_div_right (c := b.cols) hij.le) with h | h
  · exact .inl h
  · refine .inr ⟨h, ?_⟩
    have hi := Nat.div_add_mod i b.cols
    have hj := Nat.div_add_mod j b.cols
    simp only at h ⊢
    rw [h] at hi
    omega

theorem length_cells (b : CellBits) : b.cells.length = b.positions.length := List.length_map _

variable {b : CellBits}

theorem mem_colsOf {row col : Nat} : col ∈ b.colsOf row ↔ b.contains row col = true := by
  simp only [colsOf, List.mem_filter, List.mem_range, and_iff_right_iff_imp]
  exact fun h => (contains_eq_true_iff.mp h).2.1

theorem mem_rowsOf {row col : Nat} : row ∈ b.rowsOf col ↔ b.contains row col = true := by
  simp only [rowsOf, List.mem_filter, List.mem_range, and_iff_right_iff_imp]
  exact fun h => (contains_eq_true_iff.mp h).1

/-- The cells in a row are its columns, in the same order. -/
theorem filter_cells_row (row : Nat) :
    b.cells.filter (fun c => c.1 = row) = (b.colsOf row).map (row, ·) := by
  refine (b.pairwise_cells.filter _).eq_of_mem_iff (List.pairwise_map.mpr ?_) fun (r, c) => ?_
  · exact (List.pairwise_lt_range.filter _).imp fun h => .right _ h
  · simp only [List.mem_filter, mem_cells, decide_eq_true_eq, List.mem_map, mem_colsOf,
      Prod.mk.injEq]
    constructor
    · rintro ⟨h, rfl⟩
      exact ⟨c, h, rfl, rfl⟩
    · rintro ⟨_, h, rfl, rfl⟩
      exact ⟨h, rfl⟩

/-- The cells in a column are its rows, in the same order. -/
theorem filter_cells_col (col : Nat) :
    b.cells.filter (fun c => c.2 = col) = (b.rowsOf col).map (·, col) := by
  refine (b.pairwise_cells.filter _).eq_of_mem_iff (List.pairwise_map.mpr ?_) fun (r, c) => ?_
  · exact (List.pairwise_lt_range.filter _).imp fun h => .left _ _ h
  · simp only [List.mem_filter, mem_cells, decide_eq_true_eq, List.mem_map, mem_rowsOf,
      Prod.mk.injEq]
    constructor
    · rintro ⟨h, rfl⟩
      exact ⟨r, h, rfl, rfl⟩
    · rintro ⟨_, h, rfl, rfl⟩
      exact ⟨h, rfl⟩

theorem countRows_eq (b : CellBits) : b.countRows = (b.cells.map Prod.fst).dedup.length := by
  rw [countRows, List.countP_eq_length_filter]
  refine ((List.perm_ext_iff_of_nodup (List.nodup_range.filter _) (List.nodup_dedup _)).mpr
    fun row => ?_).length_eq
  simp only [List.mem_filter, List.mem_range, hasRow, List.any_eq_true, List.mem_dedup,
    List.mem_map, Prod.exists, mem_cells, exists_and_right, exists_eq_right]
  constructor
  · rintro ⟨_, col, _, h⟩
    exact ⟨col, h⟩
  · rintro ⟨col, h⟩
    obtain ⟨hr, hc, _⟩ := contains_eq_true_iff.mp h
    exact ⟨hr, col, hc, h⟩

theorem countRows_le (b : CellBits) : b.countRows ≤ b.rows :=
  List.countP_le_length.trans_eq List.length_range

end CellBits
end TableAudit
