import TableAudit.Proofs.Audit.Columns

/-! Exact comparison against comparison without regard to case. The latter keeps all findings and
adds repetitions of values above that are written in another case. -/
namespace TableAudit

/-- A way to compare values that tells no values apart that the other takes for the same. -/
def Matching.Coarser (m' m : Matching) : Prop := ∀ s s', m.key s = m.key s' → m'.key s = m'.key s'

private theorem Matching.coarser_exact (m : Matching) :
    m.Coarser .exact := fun _ _ h => congrArg m.key h

section Trace
variable {m m' : Matching}

private theorem Visit.finding?_of_coarser (h : m'.Coarser m) {earlier : List Visit} {v : Visit}
    {f : Finding} (hf : v.finding? m earlier = some f) : v.finding? m' earlier = some f := by
  cases hown : v.column.finding? v.value with
  | some g =>
    rw [finding?_of_column hown] at hf ⊢
    exact hf
  | none =>
    by_cases hr : v.IsCompared ∧ ∃ w ∈ earlier, w.IsCompared ∧ w.key m = v.key m
    · obtain ⟨hv, w, hw, hwc, hkey⟩ := hr
      rw [finding?_of_repeats hv ⟨w, hw, hwc, hkey⟩] at hf
      obtain ⟨hcol, hvalue⟩ := Prod.mk.inj hkey
      rw [finding?_of_repeats hv ⟨w, hw, hwc, Prod.ext hcol (h _ _ hvalue)⟩]
      exact hf
    · rw [finding?_of_not_repeats hown hr] at hf
      cases hf

private theorem trace_sublist_of_coarser (h : m'.Coarser m) (earlier vs : List Visit) :
    (trace m earlier vs).Sublist (trace m' earlier vs) := by
  induction vs generalizing earlier with
  | nil => exact .slnil
  | cons v vs ih =>
    rw [trace, trace]
    apply List.Sublist.append _ (ih _)
    cases hf : v.finding? m earlier with
    | none => exact List.nil_sublist _
    | some f => rw [Visit.finding?_of_coarser h hf]

end Trace

namespace AuditPlan
variable {p : AuditPlan} {m m' : Matching} {trim : Bool} {t : Table}

private theorem Sound.code_of_coarser (hs : p.Sound) (h : m'.Coarser m) {row col : Nat}
    (hne : (p.audit ⟨trim, m⟩ t).code row col ≠ 0) :
    (p.audit ⟨trim, m'⟩ t).code row col = (p.audit ⟨trim, m⟩ t).code row col := by
  obtain ⟨v, f, hmem, rfl, rfl⟩ := hs.exists_mem_trace hne
  have hmem' : (v, f) ∈ trace m' [] (p.visits ⟨trim, m'⟩ t) :=
    (trace_sublist_of_coarser h [] _).subset hmem
  rw [hs.code_of_mem_trace hmem, hs.code_of_mem_trace hmem']

private theorem Sound.records_of_coarser (hs : p.Sound) (h : m'.Coarser m) :
    (p.audit ⟨trim, m⟩ t).records.Sublist (p.audit ⟨trim, m'⟩ t).records := by
  rw [hs.records_eq, hs.records_eq]
  exact (trace_sublist_of_coarser h [] _).filterMap _

end AuditPlan

/-- An accepted value that does not stand above it as it is written, but in another case, where
repetitions are forbidden. -/
def ColumnPlan.RepeatsInOtherCase (c : ColumnPlan) (values : Nat → String) (row : Nat) : Prop :=
  c.isUnique = true ∧ c.Accepts (values row) ∧ (∀ above < row, values above ≠ values row) ∧
    ∃ above < row, c.Accepts (values above) ∧ Text.lowered (values above) = Text.lowered (values row)

namespace ColumnPlan
variable {c : ColumnPlan} {values : Nat → String} {row : Nat}

private theorem Repeats.of_coarser {m m' : Matching} (h : m'.Coarser m)
    (hr : c.Repeats m values row) : c.Repeats m' values row := by
  obtain ⟨hu, haccepts, above, hlt, habove, hkey⟩ := hr
  exact ⟨hu, haccepts, above, hlt, habove, h _ _ hkey⟩

private theorem repeatsInOtherCase_iff : c.RepeatsInOtherCase values row ↔
    c.Repeats .caseInsensitive values row ∧ ¬ c.Repeats .exact values row := by
  constructor
  · rintro ⟨hu, haccepts, hfirst, habove⟩
    refine ⟨⟨hu, haccepts, habove⟩, ?_⟩
    rintro ⟨_, _, above, hlt, _, hkey⟩
    exact hfirst above hlt hkey
  · rintro ⟨⟨hu, haccepts, habove⟩, hnot⟩
    refine ⟨hu, haccepts, fun above hlt heq => hnot ?_, habove⟩
    -- an equal value is accepted as this one is
    exact ⟨hu, haccepts, above, hlt, heq ▸ haccepts, heq⟩

private theorem findingIn?_of_not_repeats (h : ¬ c.RepeatsInOtherCase values row) :
    c.findingIn? .caseInsensitive values row = c.findingIn? .exact values row := by
  have hiff : c.Repeats .caseInsensitive values row ↔ c.Repeats .exact values row := by
    refine ⟨fun hr => ?_, Repeats.of_coarser (Matching.coarser_exact _)⟩
    by_contra hnot
    exact h (repeatsInOtherCase_iff.mpr ⟨hr, hnot⟩)
  rw [findingIn?, findingIn?, if_congr hiff rfl rfl]

private theorem Sound.findingIn?_of_repeats (hc : c.Sound) (h : c.RepeatsInOtherCase values row) :
    c.findingIn? .exact values row = none ∧
      c.findingIn? .caseInsensitive values row = some .repeated := by
  obtain ⟨hr, hnot⟩ := repeatsInOtherCase_iff.mp h
  refine ⟨findingIn?_eq_none_iff.mpr ⟨hnot, (hc.accepts_iff.mp hr.2.1).2⟩, if_pos hr⟩

end ColumnPlan

def AuditPlan.RepeatsInOtherCase (p : AuditPlan) (o : Options) (t : Table) (row col : Nat) : Prop :=
  row < t.size ∧ ∃ c ∈ p.columns[col]?, c.RepeatsInOtherCase (o.columnOf t col) row

namespace AuditPlan
variable {p : AuditPlan} {trim : Bool} {t : Table} {row col : Nat}

private theorem Sound.code_of_not_repeats (hs : p.Sound)
    (h : ¬ p.RepeatsInOtherCase ⟨trim, .exact⟩ t row col) :
    (p.audit ⟨trim, .caseInsensitive⟩ t).code row col = (p.audit ⟨trim, .exact⟩ t).code row col := by
  have hfinding : p.findingAt? ⟨trim, .caseInsensitive⟩ t row col =
      p.findingAt? ⟨trim, .exact⟩ t row col := by
    unfold findingAt?
    split
    · rename_i hrow
      apply Option.bind_congr
      intro c hc
      exact ColumnPlan.findingIn?_of_not_repeats fun hr => h ⟨hrow, c, hc, hr⟩
    · rfl
  rw [hs.code_eq, hs.code_eq, hfinding]

private theorem Sound.codes_of_repeats (hs : p.Sound)
    (h : p.RepeatsInOtherCase ⟨trim, .exact⟩ t row col) :
    (p.audit ⟨trim, .exact⟩ t).code row col = 0 ∧
      (p.audit ⟨trim, .caseInsensitive⟩ t).code row col = 251 := by
  obtain ⟨hrow, c, hcol, hr⟩ := h
  obtain ⟨hexact, hfolded⟩ := (hs c (List.mem_of_getElem? hcol)).findingIn?_of_repeats hr
  constructor
  · rw [hs.code_eq_zero_iff_findingAt?, findingAt?, if_pos hrow, hcol]
    exact hexact
  · rw [hs.code_eq, findingAt?, if_pos hrow, hcol, Option.bind_some]
    exact congrArg (fun f => (f.map Finding.toByte).getD 0) hfolded

end AuditPlan

private theorem ColumnSpec.isUnique_iff_of_plan {c : ColumnSpec} {schemaLocale : Option String}
    {source : LocaleSource} {q : ColumnPlan} (h : c.plan schemaLocale source = .ok q) :
    q.isUnique = true ↔ .unique ∈ c.rules := by
  obtain ⟨_, _, _, rfl⟩ := plan_eq_ok h
  rw [List.any_eq_true]
  constructor
  · rintro ⟨r, hmem, hr⟩
    cases r <;> first | exact hmem | cases hr
  · exact fun hmem => ⟨.unique, hmem, rfl⟩

private theorem Schema.unique_of_repeatsInOtherCase {s : Schema} {source : LocaleSource}
    {p : AuditPlan} (h : s.plan source = .ok p) {o : Options} {t : Table} {row col : Nat}
    (hr : p.RepeatsInOtherCase o t row col) : ∃ c ∈ s.columns[col]?, .unique ∈ c.rules := by
  obtain ⟨_, q, hcol, hu, _⟩ := hr
  have hplan := forall₂_getElem? (plan_eq_ok.mp h).2 col
  rw [hcol] at hplan
  generalize s.columns[col]? = spec at hplan ⊢
  cases hplan with
  | some hq => exact ⟨_, rfl, (ColumnSpec.isUnique_iff_of_plan hq).mp hu⟩

/-- Comparing values without regard to case only adds repetitions. A finding of exact comparison
stays what it is. The cells with another byte are those that repeat a value above them in another
case, in a column with a rule against it; they have no finding in exact comparison and are
repetitions in the other. -/
theorem Schema.codes_of_caseInsensitive {s : Schema} {source : LocaleSource} {p : AuditPlan}
    (h : s.plan source = .ok p) (trim : Bool) (t : Table) :
    let exact := p.audit ⟨trim, .exact⟩ t
    let folded := p.audit ⟨trim, .caseInsensitive⟩ t
    (∀ row col, exact.code row col ≠ 0 → folded.code row col = exact.code row col) ∧
    (∀ row col, folded.code row col ≠ exact.code row col →
      exact.code row col = 0 ∧ folded.code row col = 251 ∧
        ∃ c ∈ s.columns[col]?, .unique ∈ c.rules) ∧
    (∀ row col, folded.code row col ≠ exact.code row col ↔
      p.RepeatsInOtherCase ⟨trim, .exact⟩ t row col) ∧
    exact.records.Sublist folded.records := by
  intro exact folded
  have hs := plan_sound h
  have hdiffers : ∀ row col, folded.code row col ≠ exact.code row col →
      p.RepeatsInOtherCase ⟨trim, .exact⟩ t row col := by
    intro row col hne
    by_contra hnot
    exact hne (hs.code_of_not_repeats hnot)
  refine ⟨fun row col => ?same, fun row col hne => ?added, fun row col => ?cells, ?records⟩
  case same => exact hs.code_of_coarser (Matching.coarser_exact _)
  case added =>
    have hr := hdiffers row col hne
    obtain ⟨hexact, hfolded⟩ := hs.codes_of_repeats hr
    exact ⟨hexact, hfolded, unique_of_repeatsInOtherCase h hr⟩
  case cells =>
    refine ⟨hdiffers row col, fun hr => ?_⟩
    obtain ⟨hexact, hfolded⟩ := hs.codes_of_repeats hr
    rw [hexact, hfolded]
    decide
  case records => exact hs.records_of_coarser (Matching.coarser_exact _)

private def mailSchema : Schema := ⟨[⟨"mail", .string, [.unique], none, []⟩], none⟩

private def mailPlan : AuditPlan := ⟨[⟨"mail", .string, none, [], ∅, false, true, []⟩]⟩

private def mailTable : Table := #[#["Ab"], #["aB"], #["Ab"]]

/-- The second mail repeats the first in another case, and the third repeats it as it is written. -/
theorem Schema.codes_of_caseInsensitive_mails : mailSchema.plan ⟨fun _ _ _ => none⟩ = .ok mailPlan ∧
    (mailPlan.audit ⟨false, .exact⟩ mailTable).code 1 0 = 0 ∧
    (mailPlan.audit ⟨false, .caseInsensitive⟩ mailTable).code 1 0 = 251 ∧
    (mailPlan.audit ⟨false, .caseInsensitive⟩ mailTable).code 2 0 = 251 := by
  have hplan : mailSchema.plan ⟨fun _ _ _ => none⟩ = .ok mailPlan := rfl
  have haccepts (value : String) (hv : value ≠ "") :
      ColumnPlan.Accepts ⟨"mail", .string, none, [], ∅, false, true, []⟩ value :=
    ⟨hv, rfl, by simp⟩
  obtain ⟨hsame, hadded, hcells, _⟩ := Schema.codes_of_caseInsensitive hplan false mailTable
  have hrepeats : mailPlan.RepeatsInOtherCase ⟨false, .exact⟩ mailTable 1 0 := by
    refine ⟨by decide, _, rfl, rfl, haccepts "aB" (by decide), ?_, 0, Nat.one_pos,
      haccepts "Ab" (by decide), by decide +kernel⟩
    intro above hlt
    rw [Nat.lt_one_iff.mp hlt]
    decide
  obtain ⟨hexact, hfolded, _⟩ := hadded 1 0 ((hcells 1 0).mpr hrepeats)
  have hthird : (mailPlan.audit ⟨false, .exact⟩ mailTable).code 2 0 = 251 := by
    refine ((plan_sound hplan).code_eq_repeated_iff (by decide) rfl rfl).mpr ?_
    exact ⟨haccepts "Ab" (by decide), 0, by decide, haccepts "Ab" (by decide), rfl⟩
  have hkept := hsame 2 0 (by rw [hthird]; decide)
  exact ⟨hplan, hexact, hfolded, hkept.trans hthird⟩

end TableAudit
