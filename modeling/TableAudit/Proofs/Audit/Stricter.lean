import TableAudit.Proofs.Audit.Columns
import TableAudit.Proofs.Plan.Answers
import TableAudit.Proofs.Plan.Defects

/-! One more rule for a column takes no finding away where values are compared as they are. -/
namespace TableAudit

/-- A column that finds all that another finds in single values, and forbids repetitions where that
does. -/
structure ColumnPlan.Stricter (q' q : ColumnPlan) : Prop where
  fault? : ∀ {value}, q'.fault? value = none → q.fault? value = none
  customRules : q.customRules ⊆ q'.customRules
  isUnique : q.isUnique = true → q'.isUnique = true

namespace ColumnPlan
variable {q q' : ColumnPlan} {value : String}

private theorem Stricter.finding? (h : q'.Stricter q) (hclear : q'.finding? value = none) :
    q.finding? value = none := by
  obtain ⟨hfault, hcustom⟩ := finding?_eq_none_iff.mp hclear
  exact finding?_eq_none_iff.mpr ⟨h.fault? hfault, fun hv r hr => hcustom hv r (h.customRules hr)⟩

private theorem Stricter.findingIn? (h : q'.Stricter q) (hq' : q'.Sound) {values : Nat → String}
    {row : Nat}
    (hclear : q'.findingIn? .exact values row = none) : q.findingIn? .exact values row = none := by
  obtain ⟨hnot, hvalue⟩ := findingIn?_eq_none_iff.mp hclear
  refine findingIn?_eq_none_iff.mpr ⟨?_, h.finding? hvalue⟩
  rintro ⟨hu, haccepts, above, hlt, _, hkey⟩
  have haccepts' : q'.Accepts (values row) := hq'.accepts_iff.mpr ⟨haccepts.1, hvalue⟩
  -- an equal value above it is accepted with it, whatever else the stricter column rejects
  have hsame : values above = values row := hkey
  exact hnot ⟨h.isUnique hu, haccepts', above, hlt, hsame ▸ haccepts', hkey⟩

end ColumnPlan

def ColumnSpec.withRule (c : ColumnSpec) (r : Rule) : ColumnSpec :=
  { c with rules := c.rules ++ [r] }

def Schema.withRule (s : Schema) (col : Nat) (r : Rule) : Schema :=
  { s with columns := s.columns.modify col (·.withRule r) }

/-- A source whose checks answer alike about values that are not empty, whatever code they are
told. -/
def LocaleSource.Steady (source : LocaleSource) : Prop :=
  ∀ type locale base base' k k', source.check? type locale base = some k →
    source.check? type locale base' = some k' → k.Agrees k'

private theorem LocaleSource.steady_standard : standard.Steady := by
  intro type locale base base' k k' hk hk'
  cases hk.symm.trans hk'
  exact fun _ _ => ⟨rfl, rfl⟩

/-- A demand looks at the number of a value only if the value is not empty. -/
theorem Demand.Met.of_reader {read read' : String → Option Binary64} {value : String} {dm : Demand}
    (h : dm.Met read' value) (hread : value ≠ "" → read value = read' value) :
    dm.Met read value := by
  cases dm with
  | present | form | locale => exact h
  | rule r =>
    intro hv
    have hr := h hv
    cases r with
    | min | max =>
      simp only [Rule.Met, hread hv]
      exact hr
    | _ => exact hr

namespace ColumnSpec
variable {c : ColumnSpec} {schemaLocale : Option String} {source : LocaleSource} {q q' : ColumnPlan}
  {r : Rule} {value : String}

private theorem exists_check_of_plan (h : c.plan schemaLocale source = .ok q)
    (ht : c.cellType.isLocaleAware = true) {l : String} (hl : c.locale.or schemaLocale = some l) :
    ∃ k, source.check? c.cellType l c.typeCode = some k := by
  refine Option.ne_none_iff_exists'.mp fun hnone => ?_
  rcases c.plan_cases schemaLocale source with ⟨e, _, he⟩ | ⟨hwell, _⟩
  · cases h.symm.trans he
  · exact hwell 0 _ (.unknownLocale ht hl hnone)

private theorem ownCheck?_withRule (hsource : source.Steady)
    (h : c.plan schemaLocale source = .ok q)
    (h' : (c.withRule r).plan schemaLocale source = .ok q') :
    Option.Rel LocaleCheck.Agrees (c.ownCheck? schemaLocale source)
      ((c.withRule r).ownCheck? schemaLocale source) := by
  unfold ownCheck?
  change Option.Rel _ (if c.cellType.isLocaleAware then _ else _)
    (if c.cellType.isLocaleAware then (c.locale.or schemaLocale).bind _ else _)
  split
  · rename_i ht
    cases hl : c.locale.or schemaLocale with
    | none => exact .none
    | some l =>
      obtain ⟨k, hk⟩ := exists_check_of_plan h ht hl
      obtain ⟨k', hk'⟩ := exists_check_of_plan h' ht hl
      have hagrees := hsource _ _ _ _ _ _ hk hk'
      change Option.Rel _ (source.check? c.cellType l c.typeCode)
        (source.check? c.cellType l (c.withRule r).typeCode)
      rw [hk]
      exact hk' ▸ .some hagrees
  · exact .none

private theorem met_of_withRule
    (hcheck : Option.Rel LocaleCheck.Agrees (c.ownCheck? schemaLocale source)
      ((c.withRule r).ownCheck? schemaLocale source))
    (h : ∀ dm ∈ (c.withRule r).demands schemaLocale source,
      dm.Met ((c.withRule r).reader schemaLocale source) value) :
    ∀ dm ∈ c.demands schemaLocale source, dm.Met (c.reader schemaLocale source) value := by
  intro dm hdm
  have hread : value ≠ "" →
      c.reader schemaLocale source value = (c.withRule r).reader schemaLocale source value :=
    c.numberReader_eq hcheck
  rcases mem_demands.mp hdm with ⟨rfl, hr⟩ | htype | ⟨r', hr', hv, rfl⟩
  · exact h .present (mem_demands.mpr (.inl ⟨rfl, by simp [withRule, hr]⟩))
  · have htyped : ∀ dm' ∈ (c.withRule r).typeDemands ((c.withRule r).ownCheck? schemaLocale source),
        dm'.Met ((c.withRule r).reader schemaLocale source) value :=
      fun dm' hdm' => h dm' (mem_demands.mpr (.inr (.inl hdm')))
    generalize c.ownCheck? schemaLocale source = check,
      (c.withRule r).ownCheck? schemaLocale source = check' at hcheck htype htyped
    cases hcheck with
    | none => exact (htyped dm htype).of_reader hread
    | @some k k' hk =>
      rw [List.mem_singleton.mp htype]
      intro hv
      exact (hk value hv).1.trans (htyped (.locale k') (List.mem_singleton_self _) hv)
  · have hmem : .rule r' ∈ (c.withRule r).demands schemaLocale source :=
      mem_demands.mpr (.inr (.inr ⟨r', List.mem_append_left [r] hr', hv, rfl⟩))
    exact (h _ hmem).of_reader hread

private theorem stricter_withRule (hsource : source.Steady) (h : c.plan schemaLocale source = .ok q)
    (h' : (c.withRule r).plan schemaLocale source = .ok q') : q'.Stricter q := by
  have hcheck := ownCheck?_withRule hsource h h'
  have hfault : ∀ {value}, q'.fault? value = none → q.fault? value = none := by
    intro value hnone
    rw [fault?_eq_none_of_plan h' value] at hnone
    exact (fault?_eq_none_of_plan h value).mpr (met_of_withRule hcheck hnone)
  obtain ⟨_, _, _, rfl⟩ := plan_eq_ok h
  obtain ⟨_, _, _, rfl⟩ := plan_eq_ok h'
  refine ⟨hfault, ?_, fun hu => ?_⟩
  · simp only [withRule, List.filterMap_append]
    exact List.subset_append_left _ _
  · simp only [withRule, List.any_append, Bool.or_eq_true]
    exact .inl hu

end ColumnSpec

namespace Schema
variable {s : Schema} {source : LocaleSource} {p p' : AuditPlan} {col : Nat} {r : Rule}

private theorem columns_withRule_of_ne (h : s.plan source = .ok p)
    (h' : (s.withRule col r).plan source = .ok p') {other : Nat} (hne : other ≠ col) :
    p'.columns[other]? = p.columns[other]? := by
  have hplan := forall₂_getElem? (plan_eq_ok.mp h).2 other
  have hplan' := forall₂_getElem? (plan_eq_ok.mp h').2 other
  have hspec : (s.withRule col r).columns[other]? = s.columns[other]? :=
    List.getElem?_modify_ne _ _ hne.symm
  rw [hspec] at hplan'
  generalize s.columns[other]? = c, p.columns[other]? = q, p'.columns[other]? = q' at hplan hplan' ⊢
  cases hplan with
  | none =>
    cases hplan'
    rfl
  | some hq =>
    cases hplan' with
    | some hq' =>
      cases hq.symm.trans hq'
      rfl

private theorem stricter_withRule (hsource : source.Steady) (h : s.plan source = .ok p)
    (h' : (s.withRule col r).plan source = .ok p') :
    Option.Rel ColumnPlan.Stricter p'.columns[col]? p.columns[col]? := by
  have hplan := forall₂_getElem? (plan_eq_ok.mp h).2 col
  have hplan' := forall₂_getElem? (plan_eq_ok.mp h').2 col
  have hspec : (s.withRule col r).columns[col]? = s.columns[col]?.map (·.withRule r) :=
    List.getElem?_modify_eq _ _ _
  rw [hspec] at hplan'
  generalize s.columns[col]? = c, p.columns[col]? = q, p'.columns[col]? = q' at hplan hplan' ⊢
  cases hplan with
  | none =>
    cases hplan'
    exact .none
  | some hq =>
    cases hplan' with
    | some hq' => exact .some (ColumnSpec.stricter_withRule hsource hq hq')

/-- With values compared as they are, a rule that is added to a column of a schema takes no finding
away, though it may give a cell another byte; the cells of the other columns keep theirs. -/
theorem audit_withRule (hsource : source.Steady) (h : s.plan source = .ok p)
    (h' : (s.withRule col r).plan source = .ok p') (trim : Bool) (t : Table) :
    (∀ row, (p.audit ⟨trim, .exact⟩ t).code row col ≠ 0 →
      (p'.audit ⟨trim, .exact⟩ t).code row col ≠ 0) ∧
    ∀ row, ∀ other ≠ col,
      (p'.audit ⟨trim, .exact⟩ t).code row other = (p.audit ⟨trim, .exact⟩ t).code row other := by
  have hs := plan_sound h
  have hs' := plan_sound h'
  refine ⟨fun row => mt fun hclear => ?column, fun row other hne => ?others⟩
  case column =>
    rw [hs'.code_eq_zero_iff_findingAt?] at hclear
    rw [hs.code_eq_zero_iff_findingAt?]
    unfold AuditPlan.findingAt? at hclear ⊢
    split at hclear
    · rename_i hrow
      rw [if_pos hrow]
      have hsound := fun q hq => hs' q (List.mem_of_getElem? (i := col) hq)
      have hstricter := stricter_withRule hsource h h'
      generalize p.columns[col]? = q, p'.columns[col]? = q' at hclear hsound hstricter ⊢
      cases hstricter with
      | none => rfl
      | some hq => exact hq.findingIn? (hsound _ rfl) hclear
    · rename_i hrow
      rw [if_neg hrow]
  case others =>
    rw [hs.code_eq, hs'.code_eq, AuditPlan.findingAt?, AuditPlan.findingAt?,
      columns_withRule_of_ne h h' hne]

private def shelfSchema : Schema := ⟨[⟨"shelf", .string, [.unique], none, []⟩], none⟩

/-- The second of two equal values is found as a repetition, and still has a finding where both are
too long and nothing is compared any more. -/
theorem audit_withRule_shelves : ∃ p p', shelfSchema.plan .standard = .ok p ∧
    (shelfSchema.withRule 0 (.maxLength 1)).plan .standard = .ok p' ∧
    (p.audit ⟨true, .exact⟩ #[#["a1"], #["a1"]]).code 1 0 = 251 ∧
    (p'.audit ⟨true, .exact⟩ #[#["a1"], #["a1"]]).code 1 0 ≠ 0 := by
  obtain ⟨p', hp'⟩ : ∃ p', (shelfSchema.withRule 0 (.maxLength 1)).plan .standard = .ok p' :=
    ⟨_, rfl⟩
  obtain ⟨p, hp, hcol⟩ : ∃ p, shelfSchema.plan .standard = .ok p ∧
      p.columns[0]? = some ⟨"shelf", .string, none, [], ∅, false, true, []⟩ := ⟨_, rfl, rfl⟩
  have haccepts : ColumnPlan.Accepts ⟨"shelf", .string, none, [], ∅, false, true, []⟩ "a1" :=
    ⟨by decide, rfl, by simp⟩
  have hrepeats : (p.audit ⟨true, .exact⟩ #[#["a1"], #["a1"]]).code 1 0 = 251 := by
    refine ((plan_sound hp).code_eq_repeated_iff (by decide) hcol rfl).mpr ?_
    exact ⟨haccepts, 0, Nat.one_pos, haccepts, rfl⟩
  have hkept := (audit_withRule LocaleSource.steady_standard hp hp' true #[#["a1"], #["a1"]]).1 1
  exact ⟨p, p', hp, hp', hrepeats, hkept (by rw [hrepeats]; decide)⟩

end Schema
end TableAudit
