import TableAudit.Proofs.Audit.Stricter
import TableAudit.Proofs.Plan.Bounds

/-! Numbers in English and without a locale. The readers agree on texts of signs, points and digits
with no point at the end. -/
namespace TableAudit

/-- Signs, points and digits, with no point at the end. -/
structure IsCommon (cs : List Char) : Prop where
  mem : ∀ c ∈ cs, c = '+' ∨ c = '-' ∨ c = '.' ∨ c.isDigit = true
  last : cs.getLast? ≠ some '.'

instance (cs : List Char) : Decidable (IsCommon cs) :=
  decidable_of_iff ((cs.all fun c => c = '+' ∨ c = '-' ∨ c = '.' ∨ c.isDigit = true) = true ∧
      cs.getLast? ≠ some '.')
    ⟨fun h => ⟨by simpa using h.1, h.2⟩, fun h => ⟨by simpa using h.mem, h.last⟩⟩

structure Pointed (cs ds : List Char) (fraction : Option (List Char)) : Prop where
  text_eq : cs = ds ++ Numeral.tail fraction
  whole : ∀ c ∈ ds, c.isDigit = true
  behind : ∀ fs ∈ fraction, LocaleFormat.IsFraction fs
  ne_nil : ds ≠ [] ∨ fraction ≠ none

section Pointed

variable {cs ds : List Char} {fraction : Option (List Char)} {negative : Bool}

private theorem IsCommon.of_append {sign : List Char} (h : IsCommon (sign ++ cs)) :
    IsCommon cs where
  mem c hc := h.mem c (List.mem_append_right sign hc)
  last := by
    intro hlast
    apply h.last
    rw [List.getLast?_append, hlast]
    rfl

private theorem unsigned?_eq_some_iff (h : IsCommon cs) {n : Numeral} :
    Numeral.unsigned? negative cs = some n ↔
      ∃ ds fraction, Pointed cs ds fraction ∧ n = ⟨negative, ds, fraction.getD [], 0⟩ := by
  constructor
  · intro hn
    obtain ⟨ds, fraction, rest, rfl, hds, hfs, hne, e, he, rfl⟩ := Numeral.exists_of_unsigned? hn
    cases rest with
    | cons c r =>
      have hmem := h.mem c (by simp)
      rcases (Numeral.exists_of_exponent? he).1 with rfl | rfl
      all_goals exact absurd hmem (by decide)
    | nil =>
      obtain rfl : 0 = e := Option.some.inj he
      rw [List.append_nil] at h ⊢
      refine ⟨ds, fraction, ⟨rfl, hds, fun fs hmem => ⟨?_, hfs fs hmem⟩, ?_⟩, rfl⟩
      · rintro rfl
        rw [Option.mem_def.mp hmem] at h
        exact h.last (by simp [Numeral.tail])
      · refine hne.imp_right ?_
        rintro hne' rfl
        exact hne' rfl
  · rintro ⟨ds, fraction, hp, rfl⟩
    rw [hp.text_eq]
    refine Numeral.unsigned?_eq negative (hp.ne_nil.imp_right fun hne => ?_) hp.whole
      fun fs hfs => (hp.behind fs hfs).2
    obtain ⟨fs, rfl⟩ := Option.ne_none_iff_exists'.mp hne
    exact (hp.behind fs rfl).1

private theorem Pointed.ofText? (h : Pointed cs ds fraction) (negative : Bool) :
    Binary64.ofText? ((if negative then ['-'] else []) ++
      ((if ds = [] then ['0'] else ds) ++ Numeral.tail fraction)) =
      some (Numeral.toBinary64 ⟨negative, ds, fraction.getD [], 0⟩) := by
  have hfs : ∀ fs ∈ fraction, ∀ c ∈ fs, c.isDigit = true := fun fs hfs => (h.behind fs hfs).2
  rw [← List.append_assoc]
  by_cases hds : ds = []
  · rw [if_pos hds, hds, ← Numeral.toBinary64_zero_cons]
    exact Binary64.ofText?_eq negative (by simp) (List.all_eq_true.mp rfl) hfs
  · rw [if_neg hds]
    exact Binary64.ofText?_eq negative hds h.whole hfs

end Pointed

namespace LocaleFormat

structure IsEnglish (f : LocaleFormat) : Prop where
  decimal_eq : f.decimal = '.'
  groups_eq : f.groups = [',']

section English

variable {f : LocaleFormat} {cs w ds plain : List Char}

private theorem Whole.eq_of_forall (hf : f.Marked) (h : f.Whole w ds) (hw : ∀ m ∈ f.groups, m ∉ w) :
    w = ds := by
  rw [← h.ungrouped hf, LocaleFormat.ungrouped, eq_comm, List.filter_eq_self]
  intro c hc
  simpa using fun hmem => hw c hmem hc

private theorem unsigned_iff_pointed (hf : f.Marked) (he : f.IsEnglish) (hcs : ',' ∉ cs) :
    f.Unsigned cs plain ↔ ∃ ds fraction, Pointed cs ds fraction ∧
      plain = (if ds = [] then ['0'] else ds) ++ Numeral.tail fraction := by
  have hgroups {w : List Char} (hw : ',' ∉ w) : ∀ m ∈ f.groups, m ∉ w := by
    rw [he.groups_eq]
    exact List.forall_mem_singleton.mpr hw
  constructor
  · intro h
    cases h with
    | whole hw =>
      obtain rfl := hw.eq_of_forall hf (hgroups hcs)
      obtain ⟨-, hne, hdigits⟩ := hw.isDigit_or_mem
      exact ⟨cs, none, ⟨by simp [Numeral.tail], hdigits, by simp, .inl hne⟩,
        by simp [Numeral.tail, hne]⟩
    | both hw hfs =>
      obtain rfl := hw.eq_of_forall hf (hgroups fun hmem => hcs (List.mem_append_left _ hmem))
      obtain ⟨-, hne, hdigits⟩ := hw.isDigit_or_mem
      refine ⟨_, some _, ⟨by rw [he.decimal_eq]; rfl, hdigits, ?_, .inl hne⟩, by rw [if_neg hne]; rfl⟩
      rintro _ ⟨⟩
      exact hfs
    | fraction hfs =>
      refine ⟨[], some _, ⟨by rw [he.decimal_eq]; rfl, by simp, ?_, .inr (by simp)⟩, rfl⟩
      rintro _ ⟨⟩
      exact hfs
  · rintro ⟨ds, fraction, ⟨rfl, hds, hfs, hne⟩, rfl⟩
    cases fraction with
    | none =>
      have hne' : ds ≠ [] := hne.resolve_right fun hnone => hnone rfl
      rw [if_neg hne', Numeral.tail, List.append_nil]
      exact .whole (.run hne' hds)
    | some fs =>
      by_cases hnil : ds = []
      · have h := @Unsigned.fraction f fs (hfs fs rfl)
        rw [he.decimal_eq] at h
        rwa [if_pos hnil, hnil]
      · have h := @Unsigned.both f ds ds fs (.run hnil hds) (hfs fs rfl)
        rw [he.decimal_eq] at h
        rwa [if_neg hnil]

private theorem readNumber_eq_plainNumber? (hf : f.Marked) (he : f.IsEnglish) {value : String}
    (h : IsCommon (Text.trim value.toList)) : f.readNumber value.toList = plainNumber? value := by
  rw [readNumber_eq, plainNumber?]
  generalize Text.trim value.toList = cs at h ⊢
  obtain ⟨sign, -, hcs⟩ := Numeral.exists_takeSign cs
  have hbody : IsCommon (Numeral.takeSign cs).2 := by
    rw [hcs] at h
    exact h.of_append
  have hcomma : ',' ∉ (Numeral.takeSign cs).2 := fun hmem => absurd (hbody.mem ',' hmem) (by decide)
  ext x
  rw [Option.bind_eq_some_iff, Binary64.finiteOfText?_eq_some_iff_numeral]
  simp only [plain?_eq_some_iff hf, unsigned_iff_pointed hf he hcomma, unsigned?_eq_some_iff hbody,
    Binary64.finiteOfText?_eq_some_iff]
  constructor
  · rintro ⟨_, ⟨ds, fraction, hp, rfl⟩, htext, hx⟩
    rw [hp.ofText?, Option.some.injEq] at htext
    exact ⟨_, ⟨ds, fraction, hp, rfl⟩, htext, hx⟩
  · rintro ⟨_, ⟨ds, fraction, hp, rfl⟩, rfl, hx⟩
    exact ⟨_, ⟨ds, fraction, hp, rfl⟩, hp.ofText? _, hx⟩

end English

private theorem isEnglish {f : LocaleFormat} (h : f = american ∨ f = british) :
    f.IsEnglish ∧ f ∈ all := by
  rcases h with rfl | rfl
  all_goals exact ⟨⟨rfl, rfl⟩, by simp [all]⟩

end LocaleFormat

namespace ColumnSpec

def withoutLocale (c : ColumnSpec) : ColumnSpec := { c with locale := none }

variable {c : ColumnSpec} {schemaLocale : Option String} {source : LocaleSource} {r : Rule}
  {e : PlanError}

private theorem malformed_withoutLocale : c.withoutLocale.Malformed r e ↔ c.Malformed r e := by
  constructor
  all_goals
    intro h
    cases h with
    | misplacedBound hb hn => exact .misplacedBound hb hn
    | endlessBound hb hn hx => exact .endlessBound hb hn hx
    | badPattern hp => exact .badPattern hp
    | noChoices => exact .noChoices
    | misplacedEmail ht => exact .misplacedEmail ht

private theorem ruleDefect_withoutLocale {code i : Nat} {rules : List Rule} :
    c.withoutLocale.RuleDefect code rules i e ↔ c.RuleDefect code rules i e := by
  constructor
  · intro h
    cases h with
    | malformed hr hm => exact .malformed hr (malformed_withoutLocale.mp hm)
    | crowded hr hv hwell hlt =>
      exact .crowded hr hv (fun e he => hwell e (malformed_withoutLocale.mpr he)) hlt
  · intro h
    cases h with
    | malformed hr hm => exact .malformed hr (malformed_withoutLocale.mpr hm)
    | crowded hr hv hwell hlt =>
      exact .crowded hr hv (fun e he => hwell e (malformed_withoutLocale.mp he)) hlt

/-- A column of numbers with a check of its locale that has one fault, whatever code it is told. -/
structure NumberChecked (c : ColumnSpec) (schemaLocale : Option String) (source : LocaleSource)
    (check : LocaleCheck) : Prop where
  cellType : c.cellType = .number
  locale : ∃ name, c.locale.or schemaLocale = some name ∧
    ∀ code, source.check? .number name code = some check
  faults : ∃ message, check.faults = [⟨0, message⟩]

section Numbers

variable {check : LocaleCheck} {value : String} {source' : LocaleSource}

private theorem ownCheck?_withoutLocale (c : ColumnSpec) (source : LocaleSource) :
    c.withoutLocale.ownCheck? none source = none := ite_self none

private theorem NumberChecked.ownCheck? (h : c.NumberChecked schemaLocale source check) :
    c.ownCheck? schemaLocale source = some check := by
  obtain ⟨name, hl, hcheck⟩ := h.locale
  rw [ColumnSpec.ownCheck?, h.cellType, hl, Option.bind_some]
  exact hcheck _

private theorem NumberChecked.ruleCode (h : c.NumberChecked schemaLocale source check) :
    c.withoutLocale.ruleCode none source' = c.ruleCode schemaLocale source := by
  have hplain : c.withoutLocale.cellType = .number := h.cellType
  have hwidth : widthOf check = 1 := by
    obtain ⟨message, hfaults⟩ := h.faults
    rw [widthOf, hfaults]
    rfl
  rw [ColumnSpec.ruleCode, ColumnSpec.ruleCode, ownCheck?_withoutLocale, h.ownCheck?]
  simp only [typeWidth, hplain, hwidth]
  rfl

private theorem NumberChecked.not_defect_zero (h : c.NumberChecked schemaLocale source check) :
    ¬ c.Defect schemaLocale source 0 e := by
  obtain ⟨name, hl, hcheck⟩ := h.locale
  obtain ⟨message, hfaults⟩ := h.faults
  rw [← h.cellType] at hcheck
  intro hdefect
  cases hdefect with
  | unknownLocale _ hl' hcheck' =>
    cases hl.symm.trans hl'
    cases (hcheck _).symm.trans hcheck'
  | emptyCheck _ hl' hcheck' hempty =>
    cases hl.symm.trans hl'
    cases (hcheck _).symm.trans hcheck'
    cases hfaults.symm.trans hempty
  | wideCheck _ hl' hcheck' ho hlt =>
    cases hl.symm.trans hl'
    cases (hcheck _).symm.trans hcheck'
    obtain ⟨fault, hmem, rfl⟩ := ho
    rw [hfaults, List.mem_singleton] at hmem
    have hsmall := c.typeCode_le
    rw [hmem] at hlt
    exact absurd hlt (by simpa using hsmall.trans (by decide))

private theorem NumberChecked.defect_eq (h : c.NumberChecked schemaLocale source check) :
    c.withoutLocale.Defect none source' = c.Defect schemaLocale source := by
  funext i e
  apply propext
  cases i with
  | zero =>
    simp only [h.not_defect_zero, iff_false]
    intro hdefect
    cases hdefect with
    | unknownLocale _ hnone | emptyCheck _ hnone | wideCheck _ hnone => cases hnone
  | succ i =>
    rw [defect_succ_iff, defect_succ_iff, h.ruleCode, ruleDefect_withoutLocale]
    rfl

private theorem NumberChecked.met_iff (h : c.NumberChecked schemaLocale source check)
    (hjudge : check.judge value = none ↔ ∃ x, check.readNumber value = some x)
    (hread : check.readNumber value = plainNumber? value) :
    (∀ dm ∈ c.demands schemaLocale source, dm.Met (c.reader schemaLocale source) value) ↔
      ∀ dm ∈ c.withoutLocale.demands none source',
        dm.Met (c.withoutLocale.reader none source') value := by
  have hplain : c.withoutLocale.cellType = .number := h.cellType
  have hreader : c.reader schemaLocale source value = c.withoutLocale.reader none source' value := by
    rw [reader, reader, ownCheck?_withoutLocale, h.ownCheck?, numberReader_none,
      numberReader_some h.cellType, hread]
  have hsame (dm : Demand) : dm.Met (c.reader schemaLocale source) value ↔
      dm.Met (c.withoutLocale.reader none source') value :=
    ⟨fun hmet => hmet.of_reader fun _ => hreader.symm, fun hmet => hmet.of_reader fun _ => hreader⟩
  rw [demands, demands, ownCheck?_withoutLocale, h.ownCheck?]
  simp only [List.forall_mem_append, hsame]
  refine and_congr (and_congr Iff.rfl ?_) Iff.rfl
  simp only [typeDemands, hplain, PlainForm.ofType?, Option.toList_some, List.map_cons, List.map_nil,
    List.forall_mem_singleton]
  refine imp_congr_right fun _ => ?_
  rw [hjudge, hread, ← Option.isSome_iff_exists]
  rfl

end Numbers

private theorem plan_sameOutcome_of_defect {c' : ColumnSpec} {schemaLocale' : Option String}
    {source' : LocaleSource} {R : ColumnPlan → ColumnPlan → Prop}
    (hdefect : c'.Defect schemaLocale' source' = c.Defect schemaLocale source)
    (hR : ∀ p q, c.plan schemaLocale source = .ok p → c'.plan schemaLocale' source' = .ok q → R p q) :
    SameOutcome R (c.plan schemaLocale source) (c'.plan schemaLocale' source') := by
  have hcases := c'.plan_cases schemaLocale' source'
  rw [hdefect] at hcases
  rcases c.plan_cases schemaLocale source with ⟨e, hfirst, he⟩ | ⟨hnone, p, hp⟩
  · rcases hcases with ⟨e', hfirst', he'⟩ | ⟨hnone, -⟩
    · obtain rfl := First.unique (P := c.Defect schemaLocale source) Defect.unique hfirst hfirst'
      rw [he, he']
      exact .error e
    · obtain ⟨i, hi, -⟩ := hfirst
      exact absurd hi (hnone i e)
  · rcases hcases with ⟨e', ⟨i, hi, -⟩, -⟩ | ⟨-, q, hq⟩
    · exact absurd hi (hnone i e')
    · have hpq := hR p q hp hq
      rw [hp, hq]
      exact .ok hpq

private theorem exists_numberCheck {name : String} {f : LocaleFormat}
    (hname : LocaleFormat.find? name = some f) :
    ∃ check, (∀ code, LocaleSource.standard.check? .number name code = some check) ∧
      f.ReadsNumbers check ∧ ∃ message, check.faults = [⟨0, message⟩] := by
  obtain ⟨check, hcheck, hreads⟩ := f.check?_number
  refine ⟨check, fun code => ?_, hreads, ?_⟩
  · exact (LocaleFormat.standard_check?_eq hname _ code).trans hcheck
  · cases hcheck
    exact ⟨_, rfl⟩

/-- The check of numbers in an English locale reads a text of signs, points and digits that has no
point at its end as the plain reader does, to the last bit. So a column of numbers, whatever its
rules are, fails to be planned with the same error with the locale as without it, or passes the same
of these texts. -/
theorem plan_sameOutcome_of_english {name : String} {f : LocaleFormat}
    (hname : LocaleFormat.find? name = some f)
    (henglish : f = .american ∨ f = .british) :
    (∃ check, (∀ code, LocaleSource.standard.check? .number name code = some check) ∧
      ∀ value, IsCommon (Text.trim value.toList) → check.readNumber value = plainNumber? value) ∧
    ∀ (c : ColumnSpec) (schemaLocale : Option String) (source : LocaleSource), c.cellType = .number →
      c.locale.or schemaLocale = some name →
      SameOutcome (fun p q => ∀ value, IsCommon (Text.trim value.toList) →
          (p.validate value = 0 ↔ q.validate value = 0))
        (c.plan schemaLocale .standard) (c.withoutLocale.plan none source) := by
  obtain ⟨he, hmem⟩ := LocaleFormat.isEnglish henglish
  obtain ⟨check, hcheck, hreads, hfaults⟩ := exists_numberCheck hname
  have hread (value : String) (h : IsCommon (Text.trim value.toList)) :
      check.readNumber value = plainNumber? value := by
    rw [hreads.readNumber_eq]
    exact LocaleFormat.readNumber_eq_plainNumber? (LocaleFormat.marked_of_mem_all hmem) he h
  refine ⟨⟨check, hcheck, hread⟩, fun c schemaLocale source htype hl => ?_⟩
  have hchecked : c.NumberChecked schemaLocale .standard check := ⟨htype, ⟨name, hl, hcheck⟩, hfaults⟩
  refine plan_sameOutcome_of_defect hchecked.defect_eq fun p q hp hq value hvalue => ?_
  rw [(plan_sound hp).validate_eq_zero_iff, (plan_sound hq).validate_eq_zero_iff,
    fault?_eq_none_of_plan hp, fault?_eq_none_of_plan hq]
  exact hchecked.met_iff (hreads.judge_eq_none_iff value) (hread value hvalue)

private def shareSpec : ColumnSpec := ⟨"share", .number, [.max ⟨0x3ff0000000000000⟩], none, []⟩

/-- Half without its zero, a negative zero, and two points, which make no number. -/
theorem plan_sameOutcome_of_english_share : LocaleFormat.find? " EN_gb" = some .british ∧
    ∃ check, LocaleSource.standard.check? .number " EN_gb" 1 = some check ∧
      check.readNumber "+.5" = some ⟨0x3fe0000000000000⟩ ∧
      check.readNumber "-0" = some ⟨0x8000000000000000⟩ ∧ check.readNumber "1.5.0" = none ∧
      ∃ p q, shareSpec.plan (some " EN_gb") .standard = .ok p ∧
        shareSpec.withoutLocale.plan none .standard = .ok q ∧
        (p.validate "1.5" = 0 ↔ q.validate "1.5" = 0) := by
  have hname : LocaleFormat.find? " EN_gb" = some .british := rfl
  obtain ⟨⟨check, hcheck, hread⟩, hplans⟩ := plan_sameOutcome_of_english hname (.inr rfl)
  obtain ⟨p, hp⟩ : ∃ p, shareSpec.plan (some " EN_gb") .standard = .ok p := ⟨_, rfl⟩
  obtain ⟨q, hq, hpq⟩ := (hplans shareSpec (some " EN_gb") .standard rfl rfl).exists_ok hp
  refine ⟨hname, check, hcheck 1, ?_, ?_, ?_, p, q, hp, hq, hpq "1.5" (by decide)⟩
  · rw [hread "+.5" (by decide)]
    decide +kernel
  · rw [hread "-0" (by decide)]
    decide +kernel
  · rw [hread "1.5.0" (by decide)]
    decide +kernel

end ColumnSpec
end TableAudit
