import TableAudit.Proofs.Locale.Numbers
import TableAudit.Proofs.Plan.Bands
import TableAudit.Proofs.Plan.Defects

/-! Numbers and their bounds, where numbers are plain or those of a built-in locale. -/
namespace TableAudit

namespace Rule

def excludes (x : Binary64) : Rule → Bool
  | min bound => x.lt bound
  | max bound => bound.lt x
  | _ => false

variable {r : Rule} {bound : Binary64} {read : String → Option Binary64} {value : String}

private theorem isAboutValues_of_bound? (h : r.bound? = some bound) : r.isAboutValues = true := by
  cases r <;> first | rfl | cases h

private theorem met_iff_excludes (h : r.bound? = some bound) :
    r.Met read value ↔ ∀ x, read value = some x → r.excludes x = false := by
  cases r with
  | min | max => exact .rfl
  | _ => cases h

private theorem excludes_of_bound?_eq_none (h : r.bound? = none) (x : Binary64) :
    r.excludes x = false := by
  cases r with
  | min | max => cases h
  | _ => rfl

private theorem bound?_of_name (h : r.name = "min" ∨ r.name = "max") :
    ∃ bound, r.bound? = some bound := by
  cases r with
  | min bound | max bound => exact ⟨bound, rfl⟩
  | _ => exact absurd h (by simp [name])

end Rule

namespace Demand
variable {read : String → Option Binary64} {ds : List Demand} {dm dm' : Demand} {value : String}
  {k : UInt8}

private theorem HasCode.unique (h : HasCode ds dm k) (h' : HasCode ds dm' k) : dm = dm' := by
  obtain ⟨before, after, o, rfl, ho, hk⟩ := h
  obtain ⟨before', after', o', heq, ho', hk'⟩ := h'
  have hlt := lt_width ho
  have hlt' := lt_width ho'
  rcases List.append_eq_append_iff.mp heq with ⟨as, rfl, hrest⟩ | ⟨bs, rfl, hrest⟩
  · cases as with
    | nil => exact (List.cons.inj hrest).1
    | cons a as =>
      obtain ⟨rfl, -⟩ := List.cons.inj hrest
      rw [span_append, span_cons] at hk'
      omega
  · cases bs with
    | nil => exact (List.cons.inj hrest).1.symm
    | cons b bs =>
      obtain ⟨rfl, -⟩ := List.cons.inj hrest
      rw [span_append, span_cons] at hk
      omega

private theorem HasCode.mem (h : HasCode ds dm k) : dm ∈ ds := by
  obtain ⟨before, after, -, rfl, -⟩ := h
  exact List.mem_append_right before List.mem_cons_self

private theorem FirstFault.hasCode (h : FirstFault read ds value dm k) : HasCode ds dm k := by
  obtain ⟨before, after, o, hds, -, -, ho, -, hk⟩ := h
  exact ⟨before, after, o, hds, ho, hk⟩

private theorem FirstFault.not_met (h : FirstFault read ds value dm k) : ¬ dm.Met read value := by
  obtain ⟨_, _, _, _, _, hnot, _⟩ := h
  exact hnot

private theorem exists_excludes_of_not_met {r : Rule} {bound : Binary64}
    (hr : r.bound? = some bound)
    (h : ¬ (Demand.rule r).Met read value) : ∃ x, read value = some x ∧ r.excludes x = true := by
  have hnot : ¬ r.Met read value := fun hmet => h fun _ => hmet
  rw [Rule.met_iff_excludes hr] at hnot
  push Not at hnot
  obtain ⟨x, hx, hne⟩ := hnot
  exact ⟨x, hx, eq_true_of_ne_false hne⟩

end Demand

namespace ColumnSpec
variable {c : ColumnSpec} {schemaLocale : Option String} {source : LocaleSource} {p : ColumnPlan}
  {value : String}

/-- Columns of numbers that are plain or, if they have a locale, those of a built-in one. -/
def HasKnownNumbers (c : ColumnSpec) (schemaLocale : Option String) (source : LocaleSource) : Prop :=
  c.cellType = .integer ∨ c.cellType = .number ∧ ∀ l, c.locale.or schemaLocale = some l →
    ∀ code, source.check? .number l code = LocaleSource.standard.check? .number l code

private theorem HasKnownNumbers.isNumeric (h : c.HasKnownNumbers schemaLocale source) :
    c.cellType.isNumeric = true := by
  rcases h with h | ⟨h, -⟩
  all_goals rw [h]; rfl

theorem numberReader_none (c : ColumnSpec) : c.numberReader none = plainNumber? := by
  rw [numberReader.eq_def]
  cases c.cellType <;> rfl

theorem numberReader_some (h : c.cellType = .number) (check : LocaleCheck) :
    c.numberReader (some check) = check.readNumber := by
  rw [numberReader.eq_def, h]

private theorem rule_not_mem_typeDemands {r : Rule} (check : Option LocaleCheck) :
    .rule r ∉ c.typeDemands check := by
  cases check <;> simp [typeDemands]

private theorem isFinite_of_plainNumber? {x : Binary64} (h : plainNumber? value = some x) :
    x.isFinite = true := (Binary64.finiteOfText?_eq_some_iff.mp h).2

private theorem exists_number_of_met (hn : c.HasKnownNumbers schemaLocale source)
    (hmet : ∀ dm ∈ c.typeDemands (c.ownCheck? schemaLocale source),
      dm.Met (c.reader schemaLocale source) value) (hv : value ≠ "") :
    ∃ x, c.reader schemaLocale source value = some x ∧ x.isFinite = true ∧
      (c.cellType = .integer → x.hasFraction = false) := by
  rw [reader] at hmet ⊢
  cases hown : c.ownCheck? schemaLocale source with
  | none =>
    rw [hown] at hmet
    rw [numberReader_none]
    rcases hn with htype | ⟨htype, -⟩
    · have haccepts := hmet (.form .integer) (by simp [typeDemands, htype, PlainForm.ofType?]) hv
      obtain ⟨x, hx, hwhole⟩ := (Option.any_eq_true _ _).mp haccepts
      exact ⟨x, hx, isFinite_of_plainNumber? hx, fun _ => by simpa using hwhole⟩
    · have haccepts := hmet (.form .number) (by simp [typeDemands, htype, PlainForm.ofType?]) hv
      obtain ⟨x, hx⟩ := Option.isSome_iff_exists.mp haccepts
      exact ⟨x, hx, isFinite_of_plainNumber? hx, fun hint => by cases htype.symm.trans hint⟩
  | some check =>
    obtain ⟨haware, l, hl, hcheck⟩ := ownCheck?_eq_some hown
    rcases hn with htype | ⟨htype, hstandard⟩
    · rw [htype] at haware
      cases haware
    · rw [htype, hstandard l hl] at hcheck
      obtain ⟨f, hf, hreads⟩ := LocaleFormat.readsNumbers_of_standard hcheck
      rw [hown] at hmet
      have hjudge : check.judge value = none := hmet (.locale check) List.mem_cons_self hv
      obtain ⟨x, hx⟩ := (hreads.judge_eq_none_iff value).mp hjudge
      have hfinite := LocaleFormat.isFinite_of_readNumber (LocaleFormat.marked_of_mem_all hf)
        ((hreads.readNumber_eq value).symm.trans hx)
      rw [numberReader_some htype]
      exact ⟨x, hx, hfinite, fun hint => by cases htype.symm.trans hint⟩

private theorem isFinite_of_plan (h : c.plan schemaLocale source = .ok p)
    (hn : c.cellType.isNumeric = true) {r : Rule} (hr : r ∈ c.rules) {bound : Binary64}
    (hb : r.bound? = some bound) :
    bound.isFinite = true := by
  rcases c.plan_cases schemaLocale source with ⟨e, -, he⟩ | ⟨hnone, -⟩
  · cases h.symm.trans he
  · obtain ⟨i, hi⟩ := List.mem_iff_getElem?.mp hr
    apply eq_true_of_ne_false
    intro hendless
    exact hnone _ _ (.rule (.malformed hi (.endlessBound hb hn hendless)))

private theorem exists_rule_of_notice? (h : c.plan schemaLocale source = .ok p) {k : UInt8}
    {n : Notice} (hk : p.notice? k = some n) (hname : n.rule = "min" ∨ n.rule = "max") :
    ∃ r ∈ c.rules, ∃ bound, r.bound? = some bound ∧ r.name = n.rule ∧
      Demand.HasCode (c.demands schemaLocale source) (.rule r) k := by
  obtain ⟨d, hd, -, hnotices⟩ := plan_numbered h
  rw [ColumnPlan.notice?, hnotices] at hk
  obtain ⟨dm, hcode⟩ := hd.hasCode_of_notice k n hk
  obtain ⟨n', hk', hrule, -⟩ := hd.notice_of_hasCode dm k hcode
  cases hk.symm.trans hk'
  rw [hrule] at hname ⊢
  cases dm with
  | present | form | locale => exact absurd hname (by simp [Demand.name])
  | rule r =>
    rcases mem_demands.mp hcode.mem with hpresent | htype | ⟨r', hr', -, heq⟩
    · cases hpresent.1
    · exact absurd htype (rule_not_mem_typeDemands _)
    · cases heq
      obtain ⟨bound, hb⟩ := Rule.bound?_of_name hname
      exact ⟨r, hr', bound, hb, rfl, hcode⟩

private theorem exists_number_of_validate (h : c.plan schemaLocale source = .ok p)
    (hn : c.HasKnownNumbers schemaLocale source) (hv : value ≠ "") (h0 : p.validate value = 0) :
    ∃ x, c.reader schemaLocale source value = some x ∧ x.isFinite = true ∧
      (c.cellType = .integer → x.hasFraction = false) ∧ ∀ r ∈ c.rules, r.excludes x = false := by
  have hmet := (fault?_eq_none_of_plan h value).mp ((plan_sound h).validate_eq_zero_iff.mp h0)
  obtain ⟨x, hx, hfinite, hwhole⟩ := exists_number_of_met hn
    (fun dm hdm => hmet dm (mem_demands.mpr (.inr (.inl hdm)))) hv
  refine ⟨x, hx, hfinite, hwhole, fun r hr => ?_⟩
  cases hb : r.bound? with
  | none => exact Rule.excludes_of_bound?_eq_none hb x
  | some bound =>
    have hmem : .rule r ∈ c.demands schemaLocale source :=
      mem_demands.mpr (.inr (.inr ⟨r, hr, Rule.isAboutValues_of_bound? hb, rfl⟩))
    exact (Rule.met_iff_excludes hb).mp (hmet _ hmem hv) x hx

private theorem exists_excludes_of_validate (h : c.plan schemaLocale source = .ok p) {r : Rule}
    {bound : Binary64} (hb : r.bound? = some bound)
    (hcode : Demand.HasCode (c.demands schemaLocale source) (.rule r) (p.validate value)) :
    ∃ x, c.reader schemaLocale source value = some x ∧ r.excludes x = true := by
  have hs := plan_sound h
  cases hk : p.fault? value with
  | none =>
    have hpos := hcode.bounds.1
    rw [hs.validate_eq_zero_iff.mpr hk] at hpos
    exact absurd hpos (by decide)
  | some k =>
    obtain ⟨dm, hfirst, -⟩ := fault?_eq_some_of_plan h hk
    rw [(hs.validate_of_fault? hk).1] at hcode
    -- no two demands share a code, so the unmet one is this bound
    obtain rfl := hfirst.hasCode.unique hcode
    exact Demand.exists_excludes_of_not_met hb hfirst.not_met

/-- No number slips past a bound. A value that passes has a finite number, which is whole in a
column of integers and not beyond any of the bounds, all of which are finite. The code of a bound is
only given to values with a number beyond it; a code that is shown as one of a bound is one. -/
theorem bounded_of_validate (h : c.plan schemaLocale source = .ok p)
    (hn : c.HasKnownNumbers schemaLocale source) :
    (∀ r ∈ c.rules, ∀ bound, r.bound? = some bound → bound.isFinite = true) ∧
    (∀ value, value ≠ "" → p.validate value = 0 →
      ∃ x, c.reader schemaLocale source value = some x ∧ x.isFinite = true ∧
        (c.cellType = .integer → x.hasFraction = false) ∧ ∀ r ∈ c.rules, r.excludes x = false) ∧
    (∀ value r bound, r.bound? = some bound →
      Demand.HasCode (c.demands schemaLocale source) (.rule r) (p.validate value) →
      ∃ x, c.reader schemaLocale source value = some x ∧ r.excludes x = true) ∧
    ∀ k n, p.notice? k = some n → n.rule = "min" ∨ n.rule = "max" →
      ∃ r ∈ c.rules, ∃ bound, r.bound? = some bound ∧ r.name = n.rule ∧
        Demand.HasCode (c.demands schemaLocale source) (.rule r) k := by
  refine ⟨?finite, ?passed, ?coded, ?shown⟩
  case finite =>
    intro r hr bound hb
    exact isFinite_of_plan h hn.isNumeric hr hb
  case passed =>
    intro value hv h0
    exact exists_number_of_validate h hn hv h0
  case coded =>
    intro value r bound hb hcode
    exact exists_excludes_of_validate h hb hcode
  case shown =>
    intro k n hk hname
    exact exists_rule_of_notice? h hk hname

private def amountSpec : ColumnSpec :=
  ⟨"amount", .number, [.max ⟨0x40c3880000000000⟩, .required, .minLength 2,
    .min ⟨0x408f400000000000⟩], some "de-DE", []⟩

/-- Between a thousand and ten thousand, written in German: the length stands between the bounds. -/
theorem bounded_of_validate_amount : ∃ p, amountSpec.plan none .standard = .ok p ∧
    p.validate "1.000,00" = 0 ∧ p.validate "999,99" = 5 ∧
    (∃ x, amountSpec.reader none .standard "1.000,00" = some x ∧ x.isFinite = true ∧
      Rule.excludes x (.min ⟨0x408f400000000000⟩) = false) ∧
    ∃ x, amountSpec.reader none .standard "999,99" = some x ∧
      Rule.excludes x (.min ⟨0x408f400000000000⟩) = true := by
  obtain ⟨p, hp, hpass, hfail⟩ : ∃ p, amountSpec.plan none .standard = .ok p ∧
      p.validate "1.000,00" = 0 ∧ p.validate "999,99" = 5 :=
    ⟨_, rfl, by decide +kernel, by decide +kernel⟩
  have hn : amountSpec.HasKnownNumbers none .standard := .inr ⟨rfl, fun _ _ _ => rfl⟩
  obtain ⟨-, hpassed, hcoded, -⟩ := bounded_of_validate hp hn
  obtain ⟨x, hx, hfinite, -, hbounds⟩ := hpassed "1.000,00" (by decide) hpass
  have hcode : Demand.HasCode (amountSpec.demands none .standard)
      (.rule (.min ⟨0x408f400000000000⟩)) (p.validate "999,99") := by
    rw [hfail]
    exact ⟨(amountSpec.demands none .standard).dropLast, [], 0, rfl, rfl, rfl⟩
  refine ⟨p, hp, hpass, hfail, ⟨x, hx, hfinite, hbounds _ ?_⟩, hcoded _ _ _ rfl hcode⟩
  simp [amountSpec]

end ColumnSpec
end TableAudit
