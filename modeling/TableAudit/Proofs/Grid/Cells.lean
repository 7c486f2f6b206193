import Mathlib.Algebra.Order.Floor.Div
import Mathlib.Data.Finset.Image
import TableAudit.Grid.Cursor
import TableAudit.Proofs.Grid.Bits

/-! Packed bits, and the loops over their words, answer as the set of the cells that were added
inside the table. -/
namespace TableAudit

section Word
variable {w : BitVec 32} {i : Nat}

private theorem exists_toNat_eq (h : w ≠ 0) :
    ∃ q, w.toNat = 2 ^ (w.ctz.toNat + 1) * q + 2 ^ w.ctz.toNat := by
  have hmod : w.toNat % 2 ^ (w.ctz.toNat + 1) = 2 ^ w.ctz.toNat := by
    refine Nat.eq_of_testBit_eq fun i => ?_
    rw [Nat.testBit_mod_two_pow, Nat.testBit_two_pow, BitVec.testBit_toNat]
    rcases Nat.lt_trichotomy i w.ctz.toNat with hlt | rfl | hlt
    · rw [BitVec.getLsbD_false_of_lt_ctz hlt, Bool.and_false, decide_eq_false (Nat.ne_of_gt hlt)]
    · rw [BitVec.getLsbD_true_ctz_of_ne_zero h, decide_eq_true (Nat.lt_succ_self _)]
      simp
    · rw [decide_eq_false (by omega), decide_eq_false (Nat.ne_of_lt hlt), Bool.false_and]
  exact ⟨w.toNat / 2 ^ (w.ctz.toNat + 1), by rw [← hmod, Nat.div_add_mod]⟩

private theorem getLsbD_clearLowest (h : w ≠ 0) :
    (clearLowest w).getLsbD i = (w.getLsbD i && decide (i ≠ w.ctz.toNat)) := by
  obtain ⟨q, hq⟩ := exists_toNat_eq h
  have hpow := Nat.two_pow_pos w.ctz.toNat
  have hlt : 2 ^ w.ctz.toNat < 2 ^ (w.ctz.toNat + 1) := Nat.pow_lt_pow_right (by decide) (by omega)
  -- below the lowest set bit one is borrowed from it, and nothing above it changes
  have hsub : (w - 1).toNat = 2 ^ (w.ctz.toNat + 1) * q + (2 ^ w.ctz.toNat - 1) := by
    have hw := w.isLt
    rw [BitVec.toNat_sub, show (1 : BitVec 32).toNat = 1 from rfl]
    omega
  rw [clearLowest, BitVec.getLsbD_and, ← BitVec.testBit_toNat, ← BitVec.testBit_toNat, hsub, hq,
    Nat.testBit_two_pow_mul_add _ hlt, Nat.testBit_two_pow_mul_add _ (by omega)]
  split
  · rw [Nat.testBit_two_pow, Nat.testBit_two_pow_sub_one, ← Bool.decide_and, ← Bool.decide_and,
      decide_eq_decide]
    omega
  · rename_i hi
    rw [Bool.and_self, decide_eq_true (show i ≠ w.ctz.toNat by omega), Bool.and_true]

namespace CellBits

private theorem bitsOf_zero : bitsOf 0 = [] := if_pos rfl

private theorem bitsOf_eq_cons (h : w ≠ 0) : bitsOf w = w.ctz.toNat :: bitsOf (clearLowest w) := by
  refine (pairwise_bitsOf w).eq_of_mem_iff (List.pairwise_cons.mpr ⟨fun j hj => ?_,
    pairwise_bitsOf _⟩) fun j => ?_
  · rw [mem_bitsOf, getLsbD_clearLowest h, Bool.and_eq_true, decide_eq_true_eq] at hj
    by_contra hle
    have hbelow := BitVec.getLsbD_false_of_lt_ctz (x := w) (i := j) (by omega)
    rw [hj.1] at hbelow
    cases hbelow
  · rw [List.mem_cons, mem_bitsOf, mem_bitsOf, getLsbD_clearLowest h, Bool.and_eq_true,
      decide_eq_true_eq]
    by_cases hj : j = w.ctz.toNat
    · rw [hj]
      simp [BitVec.getLsbD_true_ctz_of_ne_zero h]
    · simp [hj]

end CellBits

private theorem countBits_eq (w : BitVec 32) : countBits w = (CellBits.bitsOf w).length := by
  induction w using countBits.induct with
  | case1 =>
    rw [countBits, dif_pos rfl, CellBits.bitsOf_zero, List.length_nil]
  | case2 w h ih =>
    rw [countBits, dif_neg h, ih, CellBits.bitsOf_eq_cons h, List.length_cons]

end Word

namespace BitCursor

def ahead (c : BitCursor) : List Nat :=
  ((c.left :: c.behind).zipIdx c.number).flatMap fun (w, k) =>
    (CellBits.bitsOf w).map (32 * k + ·)

variable {limit number : Nat} {left : BitVec 32} {behind : List (BitVec 32)}

private theorem ahead_eq : ahead ⟨limit, number, left, behind⟩ =
    (CellBits.bitsOf left).map (32 * number + ·) ++
      (behind.zipIdx (number + 1)).flatMap fun (w, k) => (CellBits.bitsOf w).map (32 * k + ·) := rfl

private theorem next?_eq (c : BitCursor) : (c.ahead = [] ∧ c.next? = none) ∨
    ∃ i d, c.ahead = i :: d.ahead ∧ d.limit = c.limit ∧
      c.next? = if i < c.limit then some (i, d) else none := by
  obtain ⟨limit, number, left, behind⟩ := c
  induction behind generalizing number left with
  | nil =>
    rw [ahead_eq, next?]
    by_cases h : left = 0
    · refine .inl ⟨?_, if_neg (not_not.mpr h)⟩
      rw [h, CellBits.bitsOf_zero]
      rfl
    · refine .inr ⟨_, ⟨limit, number, clearLowest left, []⟩, ?_, rfl, if_pos h⟩
      rw [ahead_eq, CellBits.bitsOf_eq_cons h, List.map_cons, List.cons_append]
  | cons w ws ih =>
    rw [next?]
    by_cases h : left = 0
    · have hahead : ahead ⟨limit, number, left, w :: ws⟩ = ahead ⟨limit, number + 1, w, ws⟩ := by
        rw [ahead_eq, h, CellBits.bitsOf_zero]
        rfl
      rw [hahead, if_neg (not_not.mpr h)]
      exact ih (number + 1) w
    · refine .inr ⟨_, ⟨limit, number, clearLowest left, w :: ws⟩, ?_, rfl, if_pos h⟩
      rw [ahead_eq, ahead_eq, CellBits.bitsOf_eq_cons h, List.map_cons, List.cons_append]

private theorem Gives.unique {c : BitCursor} {is js : List Nat} (h : c.Gives is) (h' : c.Gives js) :
    is = js := by
  induction h generalizing js with
  | stop hnone =>
    cases h' with
    | stop => rfl
    | step hnext => cases hnone.symm.trans hnext
  | step hnext _ ih =>
    cases h' with
    | stop hnone => cases hnext.symm.trans hnone
    | step hnext' hrest =>
      cases hnext.symm.trans hnext'
      rw [ih hrest]

private theorem gives_ahead {c : BitCursor} (h : ∀ i ∈ c.ahead, i < c.limit) : c.Gives c.ahead := by
  generalize hn : c.ahead.length = n
  induction n generalizing c with
  | zero =>
    rcases c.next?_eq with ⟨hnil, hnone⟩ | ⟨i, d, hcons, _⟩
    · rw [hnil]
      exact .stop hnone
    · rw [hcons] at hn
      cases hn
  | succ n ih =>
    rcases c.next?_eq with ⟨hnil, _⟩ | ⟨i, d, hcons, hlimit, hnext⟩
    · rw [hnil] at hn
      cases hn
    · rw [hcons, List.length_cons, Nat.succ.injEq] at hn
      rw [hcons, List.forall_mem_cons, ← hlimit] at h
      rw [hcons]
      rw [← hlimit, if_pos h.1] at hnext
      exact .step hnext (ih h.2 hn)

end BitCursor

namespace CellBits
variable {b : CellBits}

private theorem Tidy.gives_positions (h : b.Tidy) : b.cursor.Gives b.positions := by
  have hahead : b.cursor.ahead = b.positions := by
    rw [h.positions_eq, cursor, BitCursor.ahead]
    cases b.words.toList with
    | nil => rfl
    | cons w ws => rfl
  rw [← hahead]
  refine BitCursor.gives_ahead fun i hi => ?_
  rw [hahead] at hi
  exact (mem_positions.mp hi).1

private theorem count_eq_sum_countBits (b : CellBits) :
    b.count = (b.words.toList.map countBits).sum := by
  rw [count, List.length_flatMap, List.map_congr_left fun w _ => (countBits_eq w).symm]

def insertAll (b : CellBits) (added : List (Nat × Nat)) : CellBits :=
  added.foldl (fun b c => b.insert c.1 c.2) b

@[simp] theorem rows_insertAll (b : CellBits) (added : List (Nat × Nat)) :
    (b.insertAll added).rows = b.rows := by
  induction added generalizing b with
  | nil => rfl
  | cons c cs ih => exact (ih _).trans (rows_insert _ _ _)

@[simp] theorem cols_insertAll (b : CellBits) (added : List (Nat × Nat)) :
    (b.insertAll added).cols = b.cols := by
  induction added generalizing b with
  | nil => rfl
  | cons c cs ih => exact (ih _).trans (cols_insert _ _ _)

private theorem Tidy.insertAll (h : b.Tidy) (added : List (Nat × Nat)) :
    (b.insertAll added).Tidy := by
  induction added generalizing b with
  | nil => exact h
  | cons c cs ih => exact ih (h.insert c.1 c.2)

private theorem contains_insertAll {added : List (Nat × Nat)} {row col : Nat} :
    (b.insertAll added).contains row col = true ↔
      b.contains row col = true ∨ (row, col) ∈ added ∧ row < b.rows ∧ col < b.cols := by
  induction added generalizing b with
  | nil => simp [insertAll]
  | cons c cs ih =>
    change ((b.insert c.1 c.2).insertAll cs).contains row col = true ↔ _
    rw [ih, contains_insert, rows_insert, cols_insert, List.mem_cons, Prod.ext_iff]
    constructor
    · rintro ((h | ⟨rfl, rfl, hin⟩) | ⟨hmem, hin⟩)
      · exact .inl h
      · exact .inr ⟨.inl ⟨rfl, rfl⟩, hin⟩
      · exact .inr ⟨.inr hmem, hin⟩
    · rintro (h | ⟨⟨rfl, rfl⟩ | hmem, hin⟩)
      · exact .inl (.inl h)
      · exact .inl (.inr ⟨rfl, rfl, hin⟩)
      · exact .inr ⟨hmem, hin⟩

/-- What is asked of packed bits is answered as by this set of cells of a table of this size. -/
structure Represents (b : CellBits) (rows cols : Nat) (S : Finset (Nat × Nat)) : Prop where
  contains_iff : ∀ row col, b.contains row col = true ↔ (row, col) ∈ S
  count_eq : b.count = S.card
  mem_positions_iff : ∀ i, i ∈ b.positions ↔ ∃ c ∈ S, i = c.1 * cols + c.2
  positions_ascend : b.positions.Pairwise (· < ·)
  positions_lt : ∀ i ∈ b.positions, i < rows * cols
  mem_cells_iff : ∀ c, c ∈ b.cells ↔ c ∈ S
  cells_row_order : b.cells.Pairwise (Prod.Lex (· < ·) (· < ·))
  hasRow_iff : ∀ row, b.hasRow row = true ↔ ∃ col, (row, col) ∈ S
  countRows_eq : b.countRows = (S.image Prod.fst).card
  mem_rowsOf_iff : ∀ row col, row ∈ b.rowsOf col ↔ (row, col) ∈ S
  rowsOf_ascend : ∀ col, (b.rowsOf col).Pairwise (· < ·)
  mem_colsOf_iff : ∀ row col, col ∈ b.colsOf row ↔ (row, col) ∈ S
  colsOf_ascend : ∀ row, (b.colsOf row).Pairwise (· < ·)
  wordCount_eq : b.wordCount = rows * cols ⌈/⌉ 32
  tidy : ∀ i, rows * cols ≤ i → b.bit i = false
  counted : b.count = (b.words.toList.map countBits).sum
  walked : ∀ is, b.cursor.Gives is ↔ is = b.positions

private theorem hasRow_eq_true_iff {row : Nat} :
    b.hasRow row = true ↔ ∃ col, b.contains row col = true := by
  simp only [hasRow, List.any_eq_true, List.mem_range]
  exact exists_congr fun col => and_iff_right_of_imp fun h => (contains_eq_true_iff.mp h).2.1

private theorem Tidy.represents (h : b.Tidy) {S : Finset (Nat × Nat)}
    (hS : ∀ row col, b.contains row col = true ↔ (row, col) ∈ S) :
    b.Represents b.rows b.cols S where
  contains_iff := hS
  count_eq := by
    have hcells : b.cells.toFinset = S := Finset.ext fun (row, col) => by
      rw [List.mem_toFinset, mem_cells, hS]
    have hnodup : b.cells.Nodup := b.pairwise_cells.imp fun {x y} hlt heq => by
      subst heq
      exact absurd hlt (by simp [Prod.lex_def])
    rw [h.count_eq, ← length_cells, ← List.toFinset_card_of_nodup hnodup, hcells]
  mem_positions_iff i := by
    constructor
    · intro hi
      have hcell : (i / b.cols, i % b.cols) ∈ b.cells := List.mem_map_of_mem hi
      exact ⟨_, (hS _ _).mp (mem_cells.mp hcell), (Nat.div_add_mod' i b.cols).symm⟩
    · rintro ⟨⟨row, col⟩, hc, rfl⟩
      obtain ⟨hrow, hcol, hbit⟩ := contains_eq_true_iff.mp ((hS row col).mpr hc)
      exact mem_positions.mpr ⟨position_lt hrow hcol, hbit⟩
  positions_ascend := b.pairwise_positions
  positions_lt i hi := (mem_positions.mp hi).1
  mem_cells_iff c := mem_cells.trans (hS c.1 c.2)
  cells_row_order := b.pairwise_cells
  hasRow_iff row := hasRow_eq_true_iff.trans (exists_congr fun col => hS row col)
  countRows_eq := by
    rw [b.countRows_eq, ← List.card_toFinset]
    congr 1
    ext row
    simp only [List.mem_toFinset, List.mem_map, Finset.mem_image, Prod.exists, mem_cells, hS]
  mem_rowsOf_iff row col := mem_rowsOf.trans (hS row col)
  rowsOf_ascend col := List.pairwise_lt_range.filter _
  mem_colsOf_iff row col := mem_colsOf.trans (hS row col)
  colsOf_ascend row := List.pairwise_lt_range.filter _
  wordCount_eq := b.size_words.trans (Nat.ceilDiv_eq_add_pred_div (b.rows * b.cols) 32).symm
  tidy := h
  counted := b.count_eq_sum_countBits
  walked is := ⟨fun hg => hg.unique h.gives_positions, fun he => he ▸ h.gives_positions⟩

/-- Packed bits, empty at first, hold the set of the cells inside the table that were added, in any
order, once or often. All questions about them are answered as by that set. -/
theorem represents_insertAll (rows cols : Nat) (added : List (Nat × Nat)) :
    ((empty rows cols).insertAll added).Represents rows cols
      (added.filter fun c => c.1 < rows ∧ c.2 < cols).toFinset := by
  have h := ((tidy_empty rows cols).insertAll added).represents
    (S := (added.filter fun c => c.1 < rows ∧ c.2 < cols).toFinset) fun row col => by
      rw [contains_insertAll]
      simp
  rwa [rows_insertAll, cols_insertAll] at h

/-- The last cell of a table, added twice, and one outside it. -/
example : ((empty 5 7).insertAll [(4, 6), (0, 7), (4, 6)]).positions = [34] := by decide

end CellBits
end TableAudit
