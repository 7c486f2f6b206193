import Mathlib.Algebra.Order.Floor.Div
import TableAudit.Proofs.Audit.Views

/-! Pages as slices of all records, and the walk along them from an offset on. -/
namespace TableAudit

section Slices
variable {α β : Type} {f : α → Option β} {l : List α}

private theorem filterMap_drop (h : ∀ x ∈ l, ∃ y, f x = some y) (n : Nat) :
    (l.drop n).filterMap f = (l.filterMap f).drop n := by
  induction l generalizing n with
  | nil => simp
  | cons x l ih =>
    rw [List.forall_mem_cons] at h
    obtain ⟨y, hy⟩ := h.1
    cases n with
    | zero => rfl
    | succ n => rw [List.drop_succ_cons, ih h.2, List.filterMap_cons_some hy, List.drop_succ_cons]

private theorem filterMap_take (h : ∀ x ∈ l, ∃ y, f x = some y) (n : Nat) :
    (l.take n).filterMap f = (l.filterMap f).take n := by
  induction l generalizing n with
  | nil => simp
  | cons x l ih =>
    rw [List.forall_mem_cons] at h
    obtain ⟨y, hy⟩ := h.1
    cases n with
    | zero => rfl
    | succ n =>
      rw [List.take_succ_cons, List.filterMap_cons_some hy, ih h.2, List.filterMap_cons_some hy,
        List.take_succ_cons]

end Slices

namespace Audit
variable {a : Audit}

private theorem Shown.exists_record (h : a.Shown) :
    ∀ i ∈ a.marks.bits.positions, ∃ r, a.record? (i / a.cols) (i % a.cols) = some r := by
  intro i hi
  have hcell : (i / a.cols, i % a.cols) ∈ a.marks.bits.cells := List.mem_map_of_mem hi
  obtain ⟨r, hr, _⟩ := h.record ((h.agree.contains_iff _ _).mp (CellBits.mem_cells.mp hcell))
  exact ⟨r, hr⟩

private theorem Shown.page_none (h : a.Shown) (offset : Nat) :
    a.page offset none = a.records.drop offset :=
  filterMap_drop h.exists_record offset

private theorem Shown.page_some (h : a.Shown) (offset limit : Nat) :
    a.page offset (some limit) = (a.records.drop offset).take limit := by
  have hrest : ∀ i ∈ a.marks.bits.positions.drop offset,
      ∃ r, a.record? (i / a.cols) (i % a.cols) = some r :=
    fun i hi => h.exists_record i (List.mem_of_mem_drop hi)
  rw [← h.page_none]
  exact filterMap_take hrest limit

/-- The pages of a size from an offset on, each behind the records of the one before, up to the first
that is empty. -/
inductive Turns (a : Audit) (size : Nat) : Nat → List (List FindingRecord) → Prop
  | stop {offset} : a.page offset (some size) = [] → a.Turns size offset []
  | turn {offset page pages} : a.page offset (some size) = page → page ≠ [] →
      a.Turns size (offset + page.length) pages → a.Turns size offset (page :: pages)

variable {size offset : Nat} {pages : List (List FindingRecord)}

private theorem Shown.length_page (h : a.Shown) (hsize : 0 < size)
    (hpage : a.page offset (some size) ≠ []) :
    offset < a.records.length ∧
      (a.page offset (some size)).length = min size (a.records.length - offset) := by
  have hlength := congrArg List.length (h.page_some offset size)
  rw [List.length_take, List.length_drop] at hlength
  have hpos := List.length_pos_iff.mpr hpage
  omega

private theorem Shown.drop_eq_nil (h : a.Shown) (hsize : 0 < size)
    (hpage : a.page offset (some size) = []) : a.records.drop offset = [] := by
  rw [h.page_some, List.take_eq_nil_iff] at hpage
  exact hpage.resolve_left (Nat.ne_of_gt hsize)

private theorem Shown.exists_turns (h : a.Shown) (hsize : 0 < size) (offset : Nat) :
    ∃ pages, a.Turns size offset pages := by
  -- every turn leaves fewer records
  generalize hn : a.records.length - offset = n
  induction n using Nat.strongRecOn generalizing offset with
  | ind n ih =>
    by_cases hpage : a.page offset (some size) = []
    · exact ⟨[], .stop hpage⟩
    · obtain ⟨hlt, hlength⟩ := h.length_page hsize hpage
      obtain ⟨pages, hpages⟩ := ih _ (by omega) (offset + (a.page offset (some size)).length) rfl
      exact ⟨_, .turn rfl hpage hpages⟩

private theorem Shown.flatten_turns (h : a.Shown) (hsize : 0 < size)
    (hturns : a.Turns size offset pages) : pages.flatten = a.records.drop offset := by
  induction hturns with
  | stop hpage => rw [h.drop_eq_nil hsize hpage, List.flatten_nil]
  | @turn offset page pages hpage _ _ ih =>
    have hfirst : page <+: a.records.drop offset := by
      rw [← hpage, h.page_some]
      exact List.take_prefix size _
    rw [List.flatten_cons, ih, ← List.drop_drop]
    exact List.prefix_iff_eq_append.mp hfirst

private theorem ceilDiv_sub_min {n size : Nat} (hsize : 0 < size) (hn : 0 < n) :
    (n - min size n) ⌈/⌉ size + 1 = n ⌈/⌉ size := by
  rw [Nat.ceilDiv_eq_add_pred_div, Nat.ceilDiv_eq_add_pred_div, ← Nat.add_div_right _ hsize]
  rcases Nat.le_total size n with hfull | hlast
  · congr 1
    omega
  · have hone : (n + size - 1) / size = 1 := Nat.div_eq_of_lt_le (by omega) (by omega)
    rw [hone]
    exact Nat.div_eq_of_lt_le (by omega) (by omega)

private theorem Shown.length_turns (h : a.Shown) (hsize : 0 < size)
    (hturns : a.Turns size offset pages) : pages.length = (a.records.length - offset) ⌈/⌉ size := by
  induction hturns with
  | @stop offset hpage =>
    have hle := List.drop_eq_nil_iff.mp (h.drop_eq_nil hsize hpage)
    rw [Nat.sub_eq_zero_of_le hle, zero_ceilDiv]
    rfl
  | @turn offset page pages hpage hne _ ih =>
    subst hpage
    obtain ⟨hlt, hlength⟩ := h.length_page hsize hne
    rw [List.length_cons, ih, hlength, ← Nat.sub_sub]
    exact ceilDiv_sub_min hsize (Nat.sub_pos_of_lt hlt)

end Audit

/-- The pages of an audit. A page is the records from its offset on, as many as its limit allows.
Pages of a size that are taken one behind the other until one is empty come to an end; together they
are all the records in their order, on as few pages as there can be. -/
theorem Schema.pages_of_audit {s : Schema} {source : LocaleSource} {p : AuditPlan}
    (h : s.plan source = .ok p) (o : Options) (t : Table) :
    let a := p.audit o t
    (∀ offset, a.page offset none = a.records.drop offset) ∧
    (∀ offset limit, a.page offset (some limit) = (a.records.drop offset).take limit) ∧
    ∀ size > 0, ∀ offset, (∃ pages, a.Turns size offset pages) ∧
      ∀ pages, a.Turns size offset pages →
        pages.flatten = a.records.drop offset ∧ pages.length = (a.count - offset) ⌈/⌉ size := by
  have hshown := (plan_sound h).shown o t
  refine ⟨hshown.page_none, hshown.page_some, fun size hsize offset => ?_⟩
  refine ⟨hshown.exists_turns hsize offset, fun pages hturns => ?_⟩
  rw [← hshown.length_records]
  exact ⟨hshown.flatten_turns hsize hturns, hshown.length_turns hsize hturns⟩

private def seatSchema : Schema :=
  ⟨[⟨"seat", .string, [.required, .maxLength 2], none, []⟩], none⟩

private def seatTable : Table := #[#["12a"], #[], #["7b"], #[""]]

/-- Three findings on two pages, of which the second has one. -/
theorem Schema.pages_of_audit_seats : ∃ p, seatSchema.plan ⟨fun _ _ _ => none⟩ = .ok p ∧
    ∃ pages, (p.audit .standard seatTable).Turns 2 0 pages ∧
      pages.flatten = (p.audit .standard seatTable).records ∧ pages.length = 2 := by
  obtain ⟨p, hp, hcount⟩ : ∃ p, seatSchema.plan ⟨fun _ _ _ => none⟩ = .ok p ∧
      (p.audit .standard seatTable).count = 3 := ⟨_, rfl, rfl⟩
  obtain ⟨_, _, hturns⟩ := Schema.pages_of_audit hp .standard seatTable
  obtain ⟨⟨pages, hpages⟩, hall⟩ := hturns 2 (by decide) 0
  obtain ⟨hflatten, hlength⟩ := hall pages hpages
  rw [hcount] at hlength
  exact ⟨p, hp, pages, hpages, hflatten, hlength⟩

end TableAudit
