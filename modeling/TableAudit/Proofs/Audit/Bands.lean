import TableAudit.Proofs.Audit.Pass

/-! After every visit of a pass a cell has its bit exactly when its byte is not zero, and such a
byte lies in a band that the column of the cell has. -/
namespace TableAudit

/-- The bytes that the cells of a column can have: the codes with a notice, one for each custom rule,
and that of repetitions where they are forbidden. -/
inductive ColumnPlan.HasByte (c : ColumnPlan) (b : UInt8) : Prop
  | check (n : Notice) : 1 ≤ b.toNat → b.toNat ≤ 200 → c.notice? b = some n → c.HasByte b
  | custom (i : Nat) : i < c.customRules.length → b.toNat = 201 + i → b.toNat ≤ 250 → c.HasByte b
  | repeated : b.toNat = 251 → c.isUnique = true → c.HasByte b

namespace ColumnPlan
variable {c : ColumnPlan}

private theorem HasByte.le_repeated {b : UInt8} (h : c.HasByte b) : b.toNat ≤ 251 := by
  cases h <;> omega

private theorem HasFinding.hasByte {f : Finding} (h : c.HasFinding f) : c.HasByte f.toByte := by
  have hb := h.toNat_toByte
  cases f with
  | check k =>
    obtain ⟨h1, h200, n, hn⟩ := h
    exact .check n h1 h200 hn
  | custom i =>
    obtain ⟨hlt, h50⟩ := h
    simp only at hb
    exact .custom i.toNat hlt hb (by omega)
  | repeated => exact .repeated hb h

end ColumnPlan

structure Marks.InBands (p : AuditPlan) (rows : Nat) (m : Marks) : Prop where
  agree : m.Agree rows p.columns.length
  hasByte : ∀ {row col}, m.codes.get row col ≠ 0 →
    ∃ c, p.columns[col]? = some c ∧ c.HasByte (m.codes.get row col)

namespace Marks
variable {p : AuditPlan} {rows : Nat} {m : Marks}

private theorem inBands_clear (p : AuditPlan) (rows : Nat) :
    (clear rows p.columns.length).InBands p rows where
  agree := agree_clear rows p.columns.length
  hasByte hne := absurd (CodeMatrix.get_clear _ _ _ _) hne

private theorem InBands.mark (h : m.InBands p rows) {row col : Nat} {c : ColumnPlan} {f : Finding}
    (hcol : p.columns[col]? = some c) (hf : c.HasFinding f) :
    (m.mark row col f).InBands p rows where
  agree := h.agree.mark row col hf.toByte_ne_zero
  hasByte {row' col'} hne := by
    rw [h.agree.get_mark] at hne ⊢
    split
    · rename_i hcell
      rw [hcell.2.1]
      exact ⟨c, hcol, hf.hasByte⟩
    · rename_i hcell
      rw [if_neg hcell] at hne
      exact h.hasByte hne

private theorem InBands.toNat_le (h : m.InBands p rows) {b : UInt8} (hb : b ∈ m.codes.bytes) :
    b.toNat ≤ 251 := by
  obtain ⟨row, col, rfl⟩ := CodeMatrix.exists_get_of_mem hb
  by_cases h0 : m.codes.get row col = 0
  · rw [h0]
    decide
  · obtain ⟨_, _, hbyte⟩ := h.hasByte h0
    exact hbyte.le_repeated

end Marks

namespace Progress
variable {p : AuditPlan} {m : Matching} {rows : Nat} {s : Progress}

private theorem marks_visit (m : Matching) (s : Progress) {v : Visit} (hs : v.column.Sound) :
    (s.visit m v).marks = s.marks ∨
      ∃ f, v.column.HasFinding f ∧ (s.visit m v).marks = s.marks.mark v.row v.col f := by
  unfold visit
  split
  · rename_i f hf
    exact .inr ⟨f, hs.hasFinding_of_finding? hf, rfl⟩
  split
  · exact .inl rfl
  rename_i hkeep
  have hunique : v.column.isUnique = true := by simp_all
  dsimp only
  split
  · exact .inr ⟨.repeated, hunique, rfl⟩
  · exact .inl rfl

private theorem inBands_visit (hs : p.Sound) (h : s.marks.InBands p rows) {v : Visit}
    (hcol : p.columns[v.col]? = some v.column) : (s.visit m v).marks.InBands p rows := by
  rcases marks_visit m s (hs v.column (List.mem_of_getElem? hcol)) with heq | ⟨f, hf, heq⟩
  · rw [heq]
    exact h
  · rw [heq]
    exact h.mark hcol hf

private theorem inBands_foldl (hs : p.Sound) (h : s.marks.InBands p rows) {vs : List Visit}
    (hcols : ∀ v ∈ vs, p.columns[v.col]? = some v.column) :
    (vs.foldl (visit m) s).marks.InBands p rows := by
  induction vs generalizing s with
  | nil => exact h
  | cons v vs ih =>
    rw [List.forall_mem_cons] at hcols
    exact ih (inBands_visit hs h hcols.1) hcols.2

end Progress

def AuditPlan.after (p : AuditPlan) (o : Options) (rows : Nat) (visited : List Visit) : Progress :=
  visited.foldl (Progress.visit o.matching) (.start rows p.columns.length)

private theorem AuditPlan.Sound.inBands_after {p : AuditPlan} (hs : p.Sound) {o : Options}
    {t : Table} {visited : List Visit} (hv : visited <+: p.visits o t) :
    (p.after o t.size visited).marks.InBands p t.size :=
  Progress.inBands_foldl hs (Marks.inBands_clear p t.size) fun _ hmem =>
    (mem_visits.mp (hv.subset hmem)).2.1

/-- At every point of a pass the bits and the bytes agree, a byte that is not zero is one of the
column of its cell, and no stored byte is above that of repetitions. -/
theorem Schema.marks_after_visits {s : Schema} {source : LocaleSource} {p : AuditPlan}
    (h : s.plan source = .ok p) (o : Options) (t : Table) :
    (p.audit o t).marks = (p.after o t.size (p.visits o t)).marks ∧
    ∀ visited, visited <+: p.visits o t →
      let marks := (p.after o t.size visited).marks
      (∀ row col, marks.bits.contains row col = true ↔ marks.codes.get row col ≠ 0) ∧
      (∀ row col, marks.codes.get row col ≠ 0 →
        ∃ c, p.columns[col]? = some c ∧ c.HasByte (marks.codes.get row col)) ∧
      ∀ b ∈ marks.codes.bytes, b.toNat ≤ 251 := by
  refine ⟨rfl, fun visited hv => ?_⟩
  have hbands := (plan_sound h).inBands_after hv
  exact ⟨hbands.agree.contains_iff, fun _ _ => hbands.hasByte, fun _ => hbands.toNat_le⟩

private def straySource : LocaleSource :=
  ⟨fun _ _ _ => some ⟨[⟨1, "Must be an amount"⟩], fun _ => some 9, fun _ => none⟩⟩

private def straySchema : Schema := ⟨[⟨"amount", .number, [.unique], some "xx", []⟩], none⟩

private def strayTable : Table := #[#["7"], #[]]

/-- The byte of a stray fault is that of the declared one; the missing cell below has none. -/
theorem Schema.marks_after_visits_stray :
    ∃ p, straySchema.plan straySource = .ok p ∧
      let marks := (p.after .standard strayTable.size (p.visits .standard strayTable)).marks
      marks.codes.get 0 0 = 2 ∧ marks.bits.contains 1 0 = false ∧
        ∃ c, p.columns[0]? = some c ∧ c.HasByte 2 := by
  obtain ⟨p, hp, hbyte, hclear⟩ : ∃ p, straySchema.plan straySource = .ok p ∧
      (p.after .standard strayTable.size (p.visits .standard strayTable)).marks.codes.get 0 0 = 2 ∧
      (p.after .standard strayTable.size (p.visits .standard strayTable)).marks.codes.get 1 0 = 0 :=
    ⟨_, rfl, rfl, rfl⟩
  obtain ⟨_, hmarks⟩ := Schema.marks_after_visits hp .standard strayTable
  obtain ⟨hbits, hbands, _⟩ := hmarks _ List.prefix_rfl
  have hbit := (hbits 1 0).not.mpr (not_not.mpr hclear)
  have hband := hbands 0 0 (by rw [hbyte]; decide)
  rw [hbyte] at hband
  exact ⟨p, hp, hbyte, Bool.eq_false_of_not_eq_true hbit, hband⟩

end TableAudit
