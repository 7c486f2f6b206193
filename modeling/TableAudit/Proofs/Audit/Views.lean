import TableAudit.Proofs.Audit.Pass

/-! The records, the counts, the single cells, the rows, the columns and the report of an audit all
show the same findings. -/
namespace TableAudit

/-- What a byte says in a column: a code of its checks, one of its custom rules, or a repetition. -/
inductive ColumnPlan.Reads (c : ColumnPlan) : UInt8 → Notice → Prop
  | check {b n} : 1 ≤ b.toNat → b.toNat ≤ 200 → c.notices[b]? = some n → c.Reads b n
  | custom {b i r} : c.customRules[i]? = some r → i < 50 → b.toNat = 201 + i →
      c.Reads b ⟨"custom", .custom, r.message⟩
  | repeated : c.isUnique = true → c.Reads 251 ⟨"unique", .unique, "Duplicate value"⟩

namespace ColumnPlan
variable {c : ColumnPlan} {f : Finding}

private theorem HasFinding.ofByte? (h : c.HasFinding f) : Finding.ofByte? f.toByte = some f := by
  have hb := h.toNat_toByte
  cases f with
  | check k =>
    obtain ⟨h1, h200, _⟩ := h
    have h0 : k ≠ Finding.clear := by
      rintro rfl
      exact absurd h1 (by decide)
    have hle : k ≤ Finding.lastCheck := h200
    rw [Finding.toByte, Finding.ofByte?, if_neg h0, if_pos hle]
  | custom i =>
    obtain ⟨_, h50⟩ := h
    simp only at hb
    have h0 : Finding.toByte (.custom i) ≠ Finding.clear := by
      intro h0
      rw [h0] at hb
      exact absurd hb (by simp [Finding.clear]; omega)
    have hgt : ¬ Finding.toByte (.custom i) ≤ Finding.lastCheck := by
      rw [UInt8.le_iff_toNat_le, hb, show Finding.lastCheck.toNat = 200 from rfl]
      omega
    have hlt : Finding.toByte (.custom i) < Finding.repeatedByte := by
      rw [UInt8.lt_iff_toNat_lt, hb, show Finding.repeatedByte.toNat = 251 from rfl]
      omega
    rw [Finding.ofByte?, if_neg h0, if_neg hgt, if_pos hlt, Finding.toByte, UInt8.add_comm,
      UInt8.add_sub_cancel]
  | repeated => rfl

/-- A finding that a column can have is shown, with what its byte says. -/
theorem HasFinding.exists_notice (h : c.HasFinding f) :
    ∃ n, c.noticeOf? f = some n ∧ c.Reads f.toByte n := by
  have hb := h.toNat_toByte
  cases f with
  | check k =>
    obtain ⟨h1, h200, n, hn⟩ := h
    exact ⟨n, hn, .check h1 h200 hn⟩
  | custom i =>
    obtain ⟨hlt, h50⟩ := h
    have hr := List.getElem?_eq_getElem hlt
    exact ⟨_, by rw [noticeOf?, hr]; rfl, .custom hr h50 hb⟩
  | repeated => exact ⟨_, rfl, .repeated h⟩

end ColumnPlan

namespace AuditPlan
variable {p : AuditPlan} {o : Options} {t : Table}

theorem Sound.code_of_mem_trace (hs : p.Sound) {v : Visit} {f : Finding}
    (h : (v, f) ∈ trace o.matching [] (p.visits o t)) :
    (p.audit o t).code v.row v.col = f.toByte := by
  obtain ⟨before, after, hsplit, hf⟩ := mem_trace.mp h
  rw [List.nil_append] at hf
  rw [hs.code_of_visits_eq hsplit, hf]
  rfl

/-- A byte that is not zero is that of a finding on the way. -/
theorem Sound.exists_mem_trace (hs : p.Sound) {row col : Nat}
    (h : (p.audit o t).code row col ≠ 0) :
    ∃ v f, (v, f) ∈ trace o.matching [] (p.visits o t) ∧ v.row = row ∧ v.col = col := by
  have hagree := hs.marks_agree o t
  have hin : row < t.size ∧ col < p.columns.length := by
    by_contra hout
    rw [← hagree.codes_rows, ← hagree.codes_cols] at hout
    exact h (CodeMatrix.get_eq_zero_of_outside hout)
  have hcol := List.getElem?_eq_getElem hin.2
  obtain ⟨before, after, hsplit⟩ := exists_visits_eq (o := o) hin.1 hcol
  have hcode := hs.code_of_visits_eq hsplit
  cases hf : Visit.finding? o.matching before ⟨row, col, p.columns[col], _⟩ with
  | none =>
    rw [hf] at hcode
    exact absurd hcode h
  | some f => exact ⟨_, f, mem_trace.mpr ⟨before, after, hsplit, hf⟩, rfl, rfl⟩

/-- The record of a finding on the way. -/
theorem Sound.record?_of_mem_trace (hs : p.Sound) {v : Visit} {f : Finding}
    (h : (v, f) ∈ trace o.matching [] (p.visits o t)) :
    ∃ n, v.column.noticeOf? f = some n ∧ v.column.Reads f.toByte n ∧
      (p.audit o t).record? v.row v.col = some ⟨v.row, v.col, v.column.name, t.cell v.row v.col,
        n.kind, n.rule, n.message⟩ := by
  have hcolumn : (p.audit o t).plan.columns[v.col]? = some v.column := column_of_mem_trace h
  have hf := hs.hasFinding_of_mem_trace h
  obtain ⟨n, hn, hreads⟩ := hf.exists_notice
  have hfinding : (p.audit o t).marks.finding? v.row v.col = some f := by
    change Finding.ofByte? ((p.audit o t).code v.row v.col) = some f
    rw [hs.code_of_mem_trace h, hf.ofByte?]
  refine ⟨n, hn, hreads, ?_⟩
  simp only [Audit.record?, hfinding, hcolumn, hn, Option.bind_eq_bind, Option.bind_some]
  rfl

end AuditPlan

/-- A record of a cell as the table, its column's plan and its byte tell it. -/
def Audit.Describes (a : Audit) (r : FindingRecord) : Prop :=
  ∃ c n, a.plan.columns[r.col]? = some c ∧ c.Reads (a.code r.row r.col) n ∧
    r = ⟨r.row, r.col, c.name, a.table.cell r.row r.col, n.kind, n.rule, n.message⟩

namespace Audit
variable {a : Audit}

theorem records_eq (a : Audit) :
    a.records = a.marks.bits.cells.filterMap fun c => a.record? c.1 c.2 := by
  rw [records, page, CellBits.cells, List.filterMap_map]
  rfl

private theorem cell_of_record?_eq_some {row col : Nat} {r : FindingRecord}
    (h : a.record? row col = some r) : r.row = row ∧ r.col = col := by
  simp only [record?, Option.bind_eq_bind, Option.bind_eq_some_iff] at h
  obtain ⟨_, _, _, _, _, _, h⟩ := h
  cases h
  exact ⟨rfl, rfl⟩

/-- What the views of an audit rely on: bits and bytes agree, and every byte that is not zero has a
record. -/
structure Shown (a : Audit) : Prop where
  agree : a.marks.Agree a.table.size a.plan.columns.length
  record : ∀ {row col}, a.code row col ≠ 0 → ∃ r, a.record? row col = some r ∧ a.Describes r

private theorem Shown.record?_eq_some_iff (h : a.Shown) {row col : Nat} {r : FindingRecord} :
    a.record? row col = some r ↔ r ∈ a.records ∧ r.row = row ∧ r.col = col := by
  rw [records_eq]
  simp only [List.mem_filterMap, Prod.exists, CellBits.mem_cells]
  constructor
  · intro hr
    refine ⟨⟨row, col, ?_, hr⟩, cell_of_record?_eq_some hr⟩
    rw [h.agree.contains_iff]
    intro h0
    simp [record?, Marks.finding?, h0, Finding.ofByte?, Finding.clear] at hr
  · rintro ⟨⟨_, _, _, hr⟩, rfl, rfl⟩
    obtain ⟨rfl, rfl⟩ := cell_of_record?_eq_some hr
    exact hr

/-- What can be read off the records if every cell with a bit has one. -/
theorem map_records_eq {α β : Type} {xs : List α} {cell : α → Nat × Nat} {f : FindingRecord → β}
    {g : α → β} (hcells : a.marks.bits.cells = xs.map cell)
    (hall : ∀ x ∈ xs, (a.record? (cell x).1 (cell x).2).map f = some (g x)) :
    a.records.map f = xs.map g := by
  rw [records_eq, hcells, List.filterMap_map, List.map_filterMap]
  calc _ = xs.filterMap (some ∘ g) := List.filterMap_congr hall
    _ = _ := by rw [List.filterMap_eq_map]

private theorem Shown.map_records (h : a.Shown) :
    (a.records.map fun r => (r.row, r.col)) = a.marks.bits.cells := by
  have hall : ∀ c ∈ a.marks.bits.cells,
      (a.record? c.1 c.2).map (fun r => (r.row, r.col)) = some c := by
    intro (row, col) hc
    obtain ⟨r, hr, _⟩ := h.record ((h.agree.contains_iff row col).mp (CellBits.mem_cells.mp hc))
    obtain ⟨rfl, rfl⟩ := cell_of_record?_eq_some hr
    rw [hr, Option.map_some]
  exact (map_records_eq (List.map_id _).symm hall).trans (List.map_id _)

private theorem Shown.describes (h : a.Shown) {r : FindingRecord} (hr : r ∈ a.records) :
    a.Describes r := by
  have hcell := h.record?_eq_some_iff.mpr ⟨hr, rfl, rfl⟩
  have hmem : (r.row, r.col) ∈ a.marks.bits.cells := h.map_records ▸ List.mem_map_of_mem hr
  obtain ⟨r', hr', hd⟩ := h.record ((h.agree.contains_iff _ _).mp (CellBits.mem_cells.mp hmem))
  cases hcell.symm.trans hr'
  exact hd

private theorem rowRecords_eq (a : Audit) (row : Nat) :
    a.rowRecords row = a.records.filter fun r => r.row = row := by
  have hall : ∀ c ∈ a.marks.bits.cells,
      (if c.1 = row then a.record? c.1 c.2 else none) =
        (a.record? c.1 c.2).filter fun r => r.row = row := by
    intro c _
    cases hr : a.record? c.1 c.2 with
    | none => simp
    | some r =>
      rw [← (cell_of_record?_eq_some hr).1]
      simp [Option.filter_some]
  calc a.rowRecords row
      = ((a.marks.bits.colsOf row).map (row, ·)).filterMap (fun c => a.record? c.1 c.2) := by
        rw [List.filterMap_map]
        rfl
    _ = _ := by
        rw [← CellBits.filter_cells_row, List.filterMap_filter, records_eq, List.filter_filterMap]
        exact List.filterMap_congr (by simpa using hall)

private theorem Shown.rowsOf_eq (h : a.Shown) (col : Nat) :
    a.marks.bits.rowsOf col = (a.records.filter fun r => r.col = col).map (·.row) := by
  have hcells := CellBits.filter_cells_col (b := a.marks.bits) col
  rw [← h.map_records, List.filter_map] at hcells
  have hrows := congrArg (List.map Prod.fst) hcells
  rw [List.map_map, List.map_map] at hrows
  exact (List.map_id _).symm.trans hrows.symm

private theorem Shown.colsOf_eq (h : a.Shown) (row : Nat) :
    a.marks.bits.colsOf row = (a.records.filter fun r => r.row = row).map (·.col) := by
  have hcells := CellBits.filter_cells_row (b := a.marks.bits) row
  rw [← h.map_records, List.filter_map] at hcells
  have hcols := congrArg (List.map Prod.snd) hcells
  rw [List.map_map, List.map_map] at hcols
  exact (List.map_id _).symm.trans hcols.symm

theorem Shown.length_records (h : a.Shown) : a.records.length = a.count := by
  rw [count, h.agree.tidy.count_eq, ← CellBits.length_cells, ← h.map_records, List.length_map]

private theorem Shown.faultyRows_eq (h : a.Shown) :
    a.faultyRows = (a.records.map (·.row)).dedup.length := by
  rw [faultyRows, CellBits.countRows_eq, ← h.map_records, List.map_map]
  rfl

end Audit

theorem AuditPlan.Sound.shown {p : AuditPlan} (hs : p.Sound) (o : Options) (t : Table) :
    (p.audit o t).Shown where
  agree := hs.marks_agree o t
  record {row col} h := by
    obtain ⟨v, f, hmem, rfl, rfl⟩ := hs.exists_mem_trace h
    obtain ⟨n, _, hreads, hr⟩ := hs.record?_of_mem_trace hmem
    refine ⟨_, hr, v.column, n, AuditPlan.column_of_mem_trace hmem, ?_, rfl⟩
    rw [hs.code_of_mem_trace hmem]
    exact hreads

/-- The views of an audit show the same findings. -/
structure Audit.Consistent (a : Audit) : Prop where
  length_records : a.records.length = a.count
  row_order : a.records.Pairwise fun r s => Prod.Lex (· < ·) (· < ·) (r.row, r.col) (s.row, s.col)
  contains_iff : ∀ row col, a.marks.bits.contains row col = true ↔
    ∃ r ∈ a.records, r.row = row ∧ r.col = col
  describes : ∀ r ∈ a.records, a.Describes r
  record? : ∀ row col r, a.record? row col = some r ↔ r ∈ a.records ∧ r.row = row ∧ r.col = col
  rowRecords : ∀ row, a.rowRecords row = a.records.filter fun r => r.row = row
  rowsOf : ∀ col, a.marks.bits.rowsOf col = (a.records.filter fun r => r.col = col).map (·.row)
  colsOf : ∀ row, a.marks.bits.colsOf row = (a.records.filter fun r => r.row = row).map (·.col)
  report_records : a.report.records = a.records
  report_isValid : a.report.isValid = true ↔ a.records = []
  count_eq_zero : a.count = 0 ↔ a.records = []
  report_faultyRows : a.report.faultyRows = (a.records.map (·.row)).dedup.length
  report_rows : a.report.rows = a.table.size
  faultyRows_le : a.report.faultyRows ≤ a.report.rows
  soundRows_add : a.report.soundRows + a.report.faultyRows = a.report.rows

private def tagPlan : AuditPlan := ⟨[⟨"tag", .string, none, [], ∅, false, true, []⟩]⟩

end TableAudit
