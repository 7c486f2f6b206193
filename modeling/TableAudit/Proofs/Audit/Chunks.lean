import Mathlib.Data.List.ProdSigma
import TableAudit.Proofs.Audit.Order

/-! A table audited in two chunks. Only repetitions of accepted values of the first chunk tell the
findings of the second from those that it has by itself. -/
namespace TableAudit

def Visit.below (n : Nat) (v : Visit) : Visit := { v with row := n + v.row }

namespace Visit
variable {m : Matching} {n : Nat} {earlier before : List Visit} {v : Visit}

private theorem sameKeys_append_below (m : Matching) (n : Nat) (earlier vs : List Visit) :
    SameKeys m (earlier ++ vs.map (below n)) (earlier ++ vs) := fun k => by
  simp only [List.mem_append, List.mem_map, or_and_right, exists_or, exists_exists_and_eq_and]
  rfl

private theorem finding?_below (v : Visit) :
    (v.below n).finding? m earlier = v.finding? m earlier := rfl

private theorem finding?_append (v : Visit) : v.finding? m (earlier ++ before) =
    if v.finding? m before = none ∧ v.IsCompared ∧
        ∃ w ∈ earlier, w.IsCompared ∧ w.key m = v.key m then some .repeated
    else v.finding? m before := by
  by_cases hc : v.IsCompared
  · rw [finding?_of_isCompared hc, finding?_of_isCompared hc]
    simp only [List.mem_append, or_and_right, exists_or]
    split <;> split <;> simp_all
  · rw [if_neg fun h => hc h.2.1]
    unfold finding?
    simp only [hc, false_and]

end Visit

namespace AuditPlan
variable {p : AuditPlan} {o : Options} {t : Table}

private theorem visits_append (p : AuditPlan) (o : Options) (t t' : Table) :
    p.visits o (t ++ t') = p.visits o t ++ (p.visits o t').map (Visit.below t.size) := by
  have hrows : (t ++ t').toList.zipIdx =
      t.toList.zipIdx ++ t'.toList.zipIdx.map fun x => (x.1, t.size + x.2) := by
    rw [Array.toList_append, List.zipIdx_append, List.zipIdx_eq_map_add (i := 0 + _), Nat.zero_add,
      Array.length_toList]
  rw [visits, hrows, List.flatMap_append, visits, visits, List.map_flatMap, List.flatMap_map]
  simp only [List.map_map]
  rfl

private theorem Sound.exists_compared_iff (hs : p.Sound) {col : Nat} {c : ColumnPlan}
    (hcol : p.columns[col]? = some c) (k : String) :
    (∃ w ∈ p.visits o t, w.IsCompared ∧ w.key o.matching = (col, k)) ↔
      c.isUnique = true ∧ ∃ row < t.size, c.Accepts (o.valueOf (t.cell row col)) ∧
        o.matching.key (o.valueOf (t.cell row col)) = k := by
  constructor
  · rintro ⟨w, hw, hcompared⟩
    obtain ⟨rfl, hu, haccepts, hkey⟩ := (hs.isCompared_iff hw hcol).mp hcompared
    obtain ⟨hrow, _, hvalue⟩ := mem_visits.mp hw
    rw [hvalue] at haccepts hkey
    exact ⟨hu, w.row, hrow, haccepts, hkey⟩
  · rintro ⟨hu, row, hrow, haccepts, hkey⟩
    have hw : Visit.mk row col c (o.valueOf (t.cell row col)) ∈ p.visits o t :=
      mem_visits.mpr ⟨hrow, hcol, rfl⟩
    exact ⟨_, hw, (hs.isCompared_iff hw hcol).mpr ⟨rfl, hu, haccepts, hkey⟩⟩

end AuditPlan

/-- A cell of a chunk without a finding by itself, of a column without repetitions, with a value that
has the key of an accepted one in the chunk above. -/
def AuditPlan.RepeatsAbove (p : AuditPlan) (o : Options) (t t' : Table) (row col : Nat) : Prop :=
  (p.audit o t').code row col = 0 ∧ ∃ c ∈ p.columns[col]?, c.isUnique = true ∧
    o.valueOf (t'.cell row col) ≠ "" ∧ ∃ above < t.size, c.Accepts (o.valueOf (t.cell above col)) ∧
      o.matching.key (o.valueOf (t.cell above col)) = o.matching.key (o.valueOf (t'.cell row col))

instance (p : AuditPlan) (o : Options) (t t' : Table) (row col : Nat) :
    Decidable (p.RepeatsAbove o t t' row col) :=
  inferInstanceAs (Decidable (_ ∧ ∃ c ∈ p.columns[col]?, _))

namespace AuditPlan
variable {p : AuditPlan} {o : Options} {t t' : Table} {row col : Nat}

theorem Sound.code_outside (hs : p.Sound) (h : ¬ (row < t.size ∧ col < p.columns.length)) :
    (p.audit o t).code row col = 0 := by
  have hagree := hs.marks_agree o t
  rw [← hagree.codes_rows, ← hagree.codes_cols] at h
  exact CodeMatrix.get_eq_zero_of_outside h

private theorem Sound.code_eq_zero_iff (hs : p.Sound) {v : Visit} {before after : List Visit}
    (h : p.visits o t = before ++ v :: after) :
    (p.audit o t).code v.row v.col = 0 ↔ v.finding? o.matching before = none := by
  rw [hs.code_of_visits_eq h]
  cases hf : v.finding? o.matching before with
  | none => simp
  | some f =>
    have hbyte := (hs.hasFinding_of_mem_trace (mem_trace.mpr ⟨before, after, h, hf⟩)).toByte_ne_zero
    simpa using hbyte

private theorem Sound.code_append_above (hs : p.Sound) (hrow : row < t.size) :
    (p.audit o (t ++ t')).code row col = (p.audit o t).code row col := by
  rcases Nat.lt_or_ge col p.columns.length with hcol | hcol
  · obtain ⟨before, after, hsplit⟩ := exists_visits_eq (o := o) hrow (List.getElem?_eq_getElem hcol)
    have hsplit' : p.visits o (t ++ t') =
        before ++ ⟨row, col, p.columns[col], o.valueOf (t.cell row col)⟩ ::
          (after ++ (p.visits o t').map (Visit.below t.size)) := by
      rw [visits_append, hsplit, List.append_assoc, List.cons_append]
    exact (hs.code_of_visits_eq hsplit').trans (hs.code_of_visits_eq hsplit).symm
  · rw [hs.code_outside fun h => absurd h.2 (Nat.not_lt.mpr hcol),
      hs.code_outside fun h => absurd h.2 (Nat.not_lt.mpr hcol)]

private theorem Sound.repeatsAbove_iff (hs : p.Sound) {c : ColumnPlan}
    (hcol : p.columns[col]? = some c) {v : Visit}
    (hv : v = ⟨row, col, c, o.valueOf (t'.cell row col)⟩) {before after : List Visit}
    (h : p.visits o t' = before ++ v :: after) :
    p.RepeatsAbove o t t' row col ↔ v.finding? o.matching before = none ∧ v.IsCompared ∧
      ∃ w ∈ p.visits o t, w.IsCompared ∧ w.key o.matching = v.key o.matching := by
  subst hv
  have hcompared := hs.exists_compared_iff (o := o) (t := t) hcol
    (o.matching.key (o.valueOf (t'.cell row col)))
  rw [RepeatsAbove, hcol, hs.code_eq_zero_iff h]
  simp only [Option.mem_def, Option.some.injEq, exists_eq_left']
  refine and_congr_right fun hnone => ?_
  have hclear : c.finding? (o.valueOf (t'.cell row col)) = none := by
    cases hf : c.finding? (o.valueOf (t'.cell row col)) with
    | none => rfl
    | some f => cases (Visit.finding?_of_column hf).symm.trans hnone
  constructor
  · rintro ⟨hu, hne, habove⟩
    exact ⟨⟨hu, hne, hclear⟩, hcompared.mpr ⟨hu, habove⟩⟩
  · rintro ⟨⟨hu, hne, _⟩, habove⟩
    exact ⟨hu, hne, (hcompared.mp habove).2⟩

private theorem Sound.code_append_below (hs : p.Sound) (hrow : row < t'.size) {c : ColumnPlan}
    (hcol : p.columns[col]? = some c) :
    (p.audit o (t ++ t')).code (t.size + row) col =
      if p.RepeatsAbove o t t' row col then 251 else (p.audit o t').code row col := by
  obtain ⟨before, after, hsplit⟩ := exists_visits_eq (o := o) hrow hcol
  have hsplit' : p.visits o (t ++ t') =
      (p.visits o t ++ before.map (Visit.below t.size)) ++
        Visit.below t.size ⟨row, col, c, o.valueOf (t'.cell row col)⟩ ::
          after.map (Visit.below t.size) := by
    rw [visits_append, hsplit, List.map_append, List.map_cons, List.append_assoc]
  have hcode := hs.code_of_visits_eq hsplit'
  rw [Visit.finding?_below, (Visit.sameKeys_append_below _ _ _ _).finding?_eq,
    Visit.finding?_append, if_congr (hs.repeatsAbove_iff hcol rfl hsplit).symm rfl rfl] at hcode
  have hown := hs.code_of_visits_eq hsplit
  refine hcode.trans ?_
  split
  · rfl
  · exact hown.symm

end AuditPlan

def gridCells (rows cols : Nat) : List (Nat × Nat) := List.range rows ×ˢ List.range cols

private theorem mem_gridCells {rows cols : Nat} {x : Nat × Nat} :
    x ∈ gridCells rows cols ↔ x.1 < rows ∧ x.2 < cols := by
  rw [gridCells, List.mem_product, List.mem_range, List.mem_range]

private theorem pairwise_gridCells (rows cols : Nat) :
    (gridCells rows cols).Pairwise (Prod.Lex (· < ·) (· < ·)) := by
  refine List.pairwise_flatMap.mpr ⟨fun row _ => ?row, ?rows⟩
  case row =>
    rw [List.pairwise_map]
    exact List.pairwise_lt_range.imp fun h => .right _ h
  case rows =>
    refine List.pairwise_lt_range.imp fun h x hx y hy => ?_
    obtain ⟨_, _, rfl⟩ := List.mem_map.mp hx
    obtain ⟨_, _, rfl⟩ := List.mem_map.mp hy
    exact .left _ _ h

private theorem gridCells_add (above below cols : Nat) : gridCells (above + below) cols =
    gridCells above cols ++ (gridCells below cols).map fun x => (above + x.1, x.2) := by
  have hbelow : (gridCells below cols).map (fun x => (above + x.1, x.2)) =
      ((List.range below).map (above + ·)).flatMap fun row => (List.range cols).map (Prod.mk row) := by
    rw [List.flatMap_map]
    refine List.map_flatMap.trans ?_
    simp only [List.map_map]
    rfl
  rw [hbelow, gridCells, List.range_add]
  exact List.flatMap_append

private theorem countP_or_of_disjoint {α : Type} {l : List α} {P Q : α → Prop} [DecidablePred P]
    [DecidablePred Q] (h : ∀ x ∈ l, P x → ¬ Q x) :
    l.countP (fun x => P x ∨ Q x) = l.countP (fun x => P x) + l.countP fun x => Q x := by
  induction l with
  | nil => rfl
  | cons x xs ih =>
    rw [List.forall_mem_cons] at h
    simp only [List.countP_cons, ih h.2, decide_eq_true_eq]
    by_cases hP : P x
    · simp [hP, h.1 hP]
      omega
    · by_cases hQ : Q x <;> simp [hP, hQ, Nat.add_assoc]

private theorem AuditPlan.Sound.count_eq {p : AuditPlan} (hs : p.Sound) (o : Options) (t : Table) :
    (p.audit o t).count = (gridCells t.size p.columns.length).countP fun x =>
      (p.audit o t).code x.1 x.2 ≠ 0 := by
  have hagree := hs.marks_agree o t
  have hcells : (p.audit o t).marks.bits.cells = (gridCells t.size p.columns.length).filter fun x =>
      (p.audit o t).code x.1 x.2 ≠ 0 := by
    refine (CellBits.pairwise_cells _).eq_of_mem_iff ((pairwise_gridCells _ _).filter _) ?_
    rintro ⟨row, col⟩
    rw [CellBits.mem_cells, hagree.contains_iff, List.mem_filter, mem_gridCells, decide_eq_true_iff]
    exact (and_iff_right_of_imp fun hne => by_contra fun hout => hne (hs.code_outside hout)).symm
  rw [Audit.count, hagree.tidy.count_eq, ← CellBits.length_cells, hcells, List.countP_eq_length_filter]

private def ticketSchema : Schema := ⟨[⟨"ticket", .string, [.unique], none, []⟩], none⟩

private def ticketPlan : AuditPlan := ⟨[⟨"ticket", .string, none, [], ∅, false, true, []⟩]⟩

end TableAudit
