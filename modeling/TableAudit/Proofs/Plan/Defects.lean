import TableAudit.Proofs.Plan.Layout
import TableAudit.Proofs.Schema.Names

/-! The first defect in the description of a column, in the order type, rules, number of custom
rules. -/
namespace TableAudit

namespace ColumnSpec

/-- Rules that make no sense in a column, whatever stands around them. -/
inductive Malformed (c : ColumnSpec) : Rule → PlanError → Prop
  | misplacedBound {r x} : r.bound? = some x → c.cellType.isNumeric = false →
      Malformed c r (.misplacedRule c.name r.name c.cellType)
  | endlessBound {r x} : r.bound? = some x → c.cellType.isNumeric = true → x.isFinite = false →
      Malformed c r (.endlessBound c.name r.name)
  | badPattern {text} : Pattern.ofText? text = none →
      Malformed c (.pattern text) (.badPattern c.name text)
  | noChoices : Malformed c (.oneOf []) (.noChoices c.name)
  | misplacedEmail : c.cellType ≠ .string →
      Malformed c .email (.misplacedRule c.name Rule.email.name c.cellType)

/-- What is wrong at a place among rules of which the first one about values has this code: a rule is
malformed, or it is about values and the codes up to 200 are taken by those before it. -/
inductive RuleDefect (c : ColumnSpec) (code : Nat) (rules : List Rule) : Nat → PlanError → Prop
  | malformed {i r e} : rules[i]? = some r → c.Malformed r e → RuleDefect c code rules i e
  | crowded {i r} : rules[i]? = some r → r.isAboutValues = true → (∀ e, ¬ c.Malformed r e) →
      200 < code + (rules.take i).countP Rule.isAboutValues →
      RuleDefect c code rules i (.tooManyChecks c.name)

def typeCode (c : ColumnSpec) : UInt8 := if c.rules.any Rule.isRequired then 2 else 1

def typeWidth (c : ColumnSpec) : Option LocaleCheck → Nat
  | some check => widthOf check
  | none => if (PlainForm.ofType? c.cellType).isSome then 1 else 0

def ruleCode (c : ColumnSpec) (schemaLocale : Option String) (source : LocaleSource) : Nat :=
  c.typeCode.toNat + c.typeWidth (c.ownCheck? schemaLocale source)

/-- What is wrong with the description of a column, and where: the type comes first, then the rules one
after the other, then the number of custom rules. -/
inductive Defect (c : ColumnSpec) (schemaLocale : Option String) (source : LocaleSource) :
    Nat → PlanError → Prop
  | unknownLocale {l} : c.cellType.isLocaleAware = true → c.locale.or schemaLocale = some l →
      source.check? c.cellType l c.typeCode = none →
      Defect c schemaLocale source 0 (.unknownLocale c.name l c.cellType)
  | emptyCheck {l check} : c.cellType.isLocaleAware = true → c.locale.or schemaLocale = some l →
      source.check? c.cellType l c.typeCode = some check → check.faults = [] →
      Defect c schemaLocale source 0 (.emptyCheck c.name l)
  | wideCheck {l check o} : c.cellType.isLocaleAware = true → c.locale.or schemaLocale = some l →
      source.check? c.cellType l c.typeCode = some check → check.Declares o →
      200 < c.typeCode.toNat + o.toNat → Defect c schemaLocale source 0 (.tooManyChecks c.name)
  | rule {i e} : c.RuleDefect (c.ruleCode schemaLocale source) c.rules i e →
      Defect c schemaLocale source (i + 1) e
  | customRules : 50 < (c.rules.filterMap Rule.custom?).length →
      Defect c schemaLocale source (c.rules.length + 1)
        (.tooManyCustomRules c.name (c.rules.filterMap Rule.custom?).length)

end ColumnSpec

namespace ColumnSpec
variable {c : ColumnSpec} {schemaLocale : Option String} {source : LocaleSource} {code : Nat}
  {r : Rule} {rules : List Rule} {e e' : PlanError}

private theorem Malformed.isAboutValues (h : c.Malformed r e) : r.isAboutValues = true := by
  cases h with
  | misplacedBound hb _ | endlessBound hb _ _ =>
    cases r <;> first | rfl | cases hb
  | badPattern | noChoices | misplacedEmail => rfl

private theorem Malformed.unique (h : c.Malformed r e) (h' : c.Malformed r e') : e = e' := by
  cases h <;> cases h' <;> simp_all [Rule.bound?]

private theorem RuleDefect.unique {i : Nat} (h : c.RuleDefect code rules i e)
    (h' : c.RuleDefect code rules i e') : e = e' := by
  cases h with
  | malformed hr hm =>
    cases h' with
    | malformed hr' hm' =>
      cases hr.symm.trans hr'
      exact hm.unique hm'
    | crowded hr' _ hwell =>
      cases hr.symm.trans hr'
      exact absurd hm (hwell _)
  | crowded hr _ hwell =>
    cases h' with
    | malformed hr' hm' =>
      cases hr.symm.trans hr'
      exact absurd hm' (hwell _)
    | crowded => rfl

private theorem not_ruleDefect_nil {i : Nat} : ¬ c.RuleDefect code [] i e := by
  intro h
  cases h with
  | malformed hr | crowded hr => cases hr

private theorem ruleDefect_cons_succ {i : Nat} :
    c.RuleDefect code (r :: rules) (i + 1) e ↔
      c.RuleDefect (code + if r.isAboutValues then 1 else 0) rules i e := by
  have hcount : code + ((r :: rules).take (i + 1)).countP Rule.isAboutValues =
      code + (if r.isAboutValues then 1 else 0) + (rules.take i).countP Rule.isAboutValues := by
    rw [List.take_succ_cons, List.countP_cons]
    omega
  constructor
  · intro h
    cases h with
    | malformed hr hm => exact .malformed hr hm
    | crowded hr hv hwell hroom => exact .crowded hr hv hwell (hcount ▸ hroom)
  · intro h
    cases h with
    | malformed hr hm => exact .malformed hr hm
    | crowded hr hv hwell hroom => exact .crowded hr hv hwell (hcount ▸ hroom)

end ColumnSpec

namespace PlanDraft
variable {d e : PlanDraft} {column : String} {width : Nat} {test : Test}
  {notices : List (UInt8 × Notice)}

private theorem add_of_le (hw : 0 < width) (h : d.next.toNat + width ≤ 201) :
    ∃ e, d.add column width test notices = .ok e ∧ e.next.toNat = d.next.toNat + width := by
  have hroom : ¬ Finding.lastCheck.toNat < d.next.toNat + width - 1 := by
    rw [show Finding.lastCheck.toNat = 200 from rfl]
    omega
  refine ⟨_, if_neg hroom, ?_⟩
  rw [UInt8.toNat_add, UInt8.toNat_ofNat']
  omega

private theorem add_of_lt (h : 201 < d.next.toNat + width) :
    d.add column width test notices = .error (.tooManyChecks column) := by
  refine if_pos ?_
  rw [show Finding.lastCheck.toNat = 200 from rfl]
  omega

private theorem addOne_cases (d : PlanDraft) (column : String) (test : Test) (rule : String)
    (kind : FindingKind) (message : String) :
    200 < d.next.toNat ∧ d.addOne column test rule kind message = .error (.tooManyChecks column) ∨
      d.next.toNat ≤ 200 ∧ ∃ e, d.addOne column test rule kind message = .ok e ∧
        e.next.toNat = d.next.toNat + 1 := by
  rcases Nat.lt_or_ge 200 d.next.toNat with h | h
  · exact .inl ⟨h, add_of_lt (by omega)⟩
  · exact .inr ⟨h, add_of_le Nat.one_pos (by omega)⟩

end PlanDraft

namespace ColumnSpec
variable {c : ColumnSpec} {schemaLocale : Option String} {source : LocaleSource}
  {read : String → Option Binary64} {d : PlanDraft} {r : Rule}

private theorem addRule_bound_cases {x : Binary64} (hb : r.bound? = some x) {test : Test}
    {message : String} (hr : c.addRule read d r =
      c.checkBound r.name x >>= fun _ => d.addOne c.name test r.name r.kind message) :
    (∃ e, c.Malformed r e ∧ c.addRule read d r = .error e) ∨ (∀ e, ¬ c.Malformed r e) ∧
      c.addRule read d r = d.addOne c.name test r.name r.kind message := by
  rw [hr, checkBound]
  cases hn : c.cellType.isNumeric with
  | false => exact .inl ⟨_, .misplacedBound hb hn, rfl⟩
  | true =>
    cases hx : x.isFinite with
    | false => exact .inl ⟨_, .endlessBound hb hn hx, rfl⟩
    | true =>
      refine .inr ⟨fun e he => ?_, rfl⟩
      cases he <;> simp_all [Rule.bound?]

private theorem addRule_cases (read : String → Option Binary64) (d : PlanDraft)
    (hv : r.isAboutValues = true) :
    (∃ e, c.Malformed r e ∧ c.addRule read d r = .error e) ∨ (∀ e, ¬ c.Malformed r e) ∧
      ∃ test message, c.addRule read d r = d.addOne c.name test r.name r.kind message := by
  cases r with
  | required | unique | custom => cases hv
  | min | max => exact (addRule_bound_cases rfl rfl).imp_right fun h => ⟨h.1, _, _, h.2⟩
  | minLength | maxLength => exact .inr ⟨fun e he => by cases he <;> contradiction, _, _, rfl⟩
  | pattern text =>
    cases hp : Pattern.ofText? text with
    | none => exact .inl ⟨_, .badPattern hp, by simp only [addRule, hp]⟩
    | some p =>
      refine .inr ⟨fun e he => ?_, .pattern p, _, by simp only [addRule, hp]; rfl⟩
      cases he <;> simp_all [Rule.bound?]
  | oneOf values =>
    cases values with
    | nil => exact .inl ⟨_, .noChoices, rfl⟩
    | cons => exact .inr ⟨fun e he => by cases he <;> contradiction, _, _, rfl⟩
  | email =>
    by_cases ht : c.cellType = .string
    · refine .inr ⟨fun e he => ?_, .email, _, by simp only [addRule, ht]; rfl⟩
      cases he <;> simp_all [Rule.bound?]
    · exact .inl ⟨_, .misplacedEmail ht, by simp only [addRule, ht]; rfl⟩

private theorem addRule_step (c : ColumnSpec) (read : String → Option Binary64) (d : PlanDraft)
    (r : Rule) (rules : List Rule) :
    (∃ e, c.RuleDefect d.next.toNat (r :: rules) 0 e ∧ c.addRule read d r = .error e) ∨
      (∀ e, ¬ c.RuleDefect d.next.toNat (r :: rules) 0 e) ∧ ∃ d', c.addRule read d r = .ok d' ∧
        d'.next.toNat = d.next.toNat + if r.isAboutValues then 1 else 0 := by
  cases hv : r.isAboutValues with
  | false =>
    refine .inr ⟨fun e he => ?_, d, addRule_of_not_isAboutValues hv, rfl⟩
    cases he with
    | malformed hr hm =>
      cases hr
      cases hv.symm.trans hm.isAboutValues
    | crowded hr hv' =>
      cases hr
      cases hv.symm.trans hv'
  | true =>
    rcases c.addRule_cases read d hv with ⟨e, hm, he⟩ | ⟨hwell, test, message, hadd⟩
    · exact .inl ⟨e, .malformed rfl hm, he⟩
    rw [hadd]
    rcases d.addOne_cases c.name test r.name r.kind message with ⟨hroom, he⟩ | ⟨hroom, d', hd', hn⟩
    · exact .inl ⟨_, .crowded rfl hv hwell hroom, he⟩
    · refine .inr ⟨fun e he => ?_, d', hd', hn⟩
      cases he with
      | malformed hr hm =>
        cases hr
        exact hwell _ hm
      | crowded _ _ _ hlt => exact absurd hlt (Nat.not_lt.mpr hroom)

private theorem addRules_cases (c : ColumnSpec) (read : String → Option Binary64)
    (rules : List Rule) (d : PlanDraft) :
    (∃ e, First (c.RuleDefect d.next.toNat rules) e ∧
      rules.foldlM (c.addRule read) d = .error e) ∨
      (∀ i e, ¬ c.RuleDefect d.next.toNat rules i e) ∧
        ∃ d', rules.foldlM (c.addRule read) d = .ok d' := by
  induction rules generalizing d with
  | nil => exact .inr ⟨fun _ _ => not_ruleDefect_nil, d, rfl⟩
  | cons r rs ih =>
    rw [List.foldlM_cons]
    rcases addRule_step c read d r rs with ⟨e, hdefect, he⟩ | ⟨hwell, d', hd', hn⟩
    · exact .inl ⟨e, .of_zero hdefect, by rw [he]; rfl⟩
    have hrest (i : Nat) (e : PlanError) :
        c.RuleDefect d.next.toNat (r :: rs) (i + 1) e ↔ c.RuleDefect d'.next.toNat rs i e := by
      rw [ruleDefect_cons_succ, hn]
    rw [hd']
    rcases ih d' with ⟨e, hfirst, he⟩ | ⟨hnone, d'', hd''⟩
    · exact .inl ⟨e, hfirst.succ hwell hrest, he⟩
    · refine .inr ⟨fun i e he => ?_, d'', hd''⟩
      cases i with
      | zero => exact hwell e he
      | succ i => exact hnone i e ((hrest i e).mp he)

theorem typeCode_le (c : ColumnSpec) : c.typeCode.toNat ≤ 2 := by
  unfold typeCode
  split <;> decide

private theorem addType_none (hd : d.next = c.typeCode) :
    ∃ d', c.addType none d = .ok d' ∧ d'.next.toNat = c.typeCode.toNat + c.typeWidth none := by
  have hsmall := c.typeCode_le
  unfold addType typeWidth
  cases PlainForm.ofType? c.cellType with
  | none => exact ⟨d, rfl, congrArg UInt8.toNat hd⟩
  | some form =>
    rcases d.addOne_cases c.name (.form form) "type" .type form.message with ⟨hlt, _⟩ | ⟨_, d', h⟩
    · rw [hd] at hlt
      omega
    · exact ⟨d', h.1, by rw [h.2, hd]; rfl⟩

private theorem addType_some (hd : d.next = c.typeCode) {check : LocaleCheck}
    (hf : check.faults ≠ []) :
    (∃ o, check.Declares o ∧ 200 < c.typeCode.toNat + o.toNat ∧
      c.addType (some check) d = .error (.tooManyChecks c.name)) ∨
    (∀ o, check.Declares o → c.typeCode.toNat + o.toNat ≤ 200) ∧
      ∃ d', c.addType (some check) d = .ok d' ∧
        d'.next.toNat = c.typeCode.toNat + c.typeWidth (some check) := by
  obtain ⟨f, hmem⟩ := List.exists_mem_of_ne_nil _ hf
  have hdeclares : check.Declares f.offset := ⟨f, hmem, rfl⟩
  obtain ⟨o, ho, hmax, hwidth⟩ := widthOf_eq hdeclares
  rw [← hd]
  rcases Nat.lt_or_ge 200 (d.next.toNat + o.toNat) with h | h
  · exact .inl ⟨o, ho, h, PlanDraft.add_of_lt (by omega)⟩
  · refine .inr ⟨fun u hu => ?_, PlanDraft.add_of_le (by omega) (by omega)⟩
    have := UInt8.le_iff_toNat_le.mp (hmax u hu)
    omega

private theorem ok_bind {ε α β : Type} (a : α) (f : α → Except ε β) : (.ok a >>= f) = f a := rfl

private theorem error_bind {ε α β : Type} (e : ε) (f : α → Except ε β) :
    (.error e >>= f) = .error e := rfl

private def TypeOutcome (c : ColumnSpec) (schemaLocale : Option String) (source : LocaleSource)
    (d : PlanDraft) : Prop :=
  (∃ e, c.Defect schemaLocale source 0 e ∧
    ∀ rest : Option LocaleCheck → PlanDraft → Except PlanError ColumnPlan,
      (c.localeCheck? (c.locale.or schemaLocale) source d.next >>= fun check =>
        c.addType check d >>= rest check) = .error e) ∨
  (∀ e, ¬ c.Defect schemaLocale source 0 e) ∧
    ∃ check d', c.localeCheck? (c.locale.or schemaLocale) source d.next = .ok check ∧
      c.addType check d = .ok d' ∧ d'.next.toNat = c.ruleCode schemaLocale source

private theorem typeOutcome_plain (hd : d.next = c.typeCode)
    (hplain : ∀ l, c.cellType.isLocaleAware = true → c.locale.or schemaLocale ≠ some l) :
    TypeOutcome c schemaLocale source d := by
  obtain ⟨d', hd', hn⟩ := addType_none hd
  have hcheck : c.localeCheck? (c.locale.or schemaLocale) source d.next = .ok none := by
    unfold localeCheck?
    cases hl : c.locale.or schemaLocale <;> simp_all
  have hown : c.ownCheck? schemaLocale source = none := by
    unfold ownCheck?
    cases hl : c.locale.or schemaLocale <;> simp_all
  refine .inr ⟨fun e he => ?_, none, d', hcheck, hd', by rw [hn, ruleCode, hown]⟩
  cases he with
  | unknownLocale ht hl | emptyCheck ht hl | wideCheck ht hl => exact hplain _ ht hl

private theorem typeOutcome_locale (hd : d.next = c.typeCode) {l : String}
    (ht : c.cellType.isLocaleAware = true) (hl : c.locale.or schemaLocale = some l) :
    TypeOutcome c schemaLocale source d := by
  have hown : c.ownCheck? schemaLocale source = source.check? c.cellType l c.typeCode := by
    simp only [ownCheck?, ht, if_true, hl, Option.bind_some, typeCode]
  unfold TypeOutcome localeCheck?
  simp only [hl, ht, hd, Bool.not_true, Bool.false_eq_true, if_false]
  cases hcheck : source.check? c.cellType l c.typeCode with
  | none => exact .inl ⟨_, .unknownLocale ht hl hcheck, fun _ => rfl⟩
  | some check =>
    by_cases hf : check.faults = []
    · exact .inl ⟨_, .emptyCheck ht hl hcheck hf, fun _ => by simp [hf]; rfl⟩
    simp only [List.isEmpty_iff, hf, if_false]
    rcases c.addType_some hd hf with ⟨o, ho, hlt, he⟩ | ⟨hroom, d', hd', hn⟩
    · refine .inl ⟨_, .wideCheck ht hl hcheck ho hlt, fun rest => ?_⟩
      rw [ok_bind, he, error_bind]
    refine .inr ⟨fun e he => ?_, some check, d', rfl, hd', by rw [hn, ruleCode, hown, hcheck]⟩
    cases he with
    | unknownLocale _ hl' hcheck' =>
      cases hl.symm.trans hl'
      cases hcheck.symm.trans hcheck'
    | emptyCheck _ hl' hcheck' hf' =>
      cases hl.symm.trans hl'
      cases hcheck.symm.trans hcheck'
      exact hf hf'
    | wideCheck _ hl' hcheck' ho hlt =>
      cases hl.symm.trans hl'
      cases hcheck.symm.trans hcheck'
      exact absurd hlt (Nat.not_lt.mpr (hroom _ ho))

private theorem typeOutcome (c : ColumnSpec) (schemaLocale : Option String)
    (source : LocaleSource) (hd : d.next = c.typeCode) : TypeOutcome c schemaLocale source d := by
  by_cases hplain : ∀ l, c.cellType.isLocaleAware = true → c.locale.or schemaLocale ≠ some l
  · exact typeOutcome_plain hd hplain
  · push Not at hplain
    obtain ⟨l, ht, hl⟩ := hplain
    exact typeOutcome_locale hd ht hl

private theorem RuleDefect.lt_length {code i : Nat} {rules : List Rule} {e : PlanError}
    (h : c.RuleDefect code rules i e) : i < rules.length := by
  cases h with
  | malformed hr | crowded hr => exact (List.getElem?_eq_some_iff.mp hr).1

theorem defect_succ_iff {i : Nat} {e : PlanError} :
    c.Defect schemaLocale source (i + 1) e ↔
      c.RuleDefect (c.ruleCode schemaLocale source) c.rules i e ∨
        i = c.rules.length ∧ 50 < (c.rules.filterMap Rule.custom?).length ∧
          e = .tooManyCustomRules c.name (c.rules.filterMap Rule.custom?).length := by
  constructor
  · intro h
    cases h with
    | rule hd => exact .inl hd
    | customRules hn => exact .inr ⟨rfl, hn, rfl⟩
  · rintro (hd | ⟨rfl, hn, rfl⟩)
    · exact .rule hd
    · exact .customRules hn

/-- There is one defect at most at a place. -/
theorem Defect.unique {i : Nat} {e e' : PlanError} (h : c.Defect schemaLocale source i e)
    (h' : c.Defect schemaLocale source i e') : e = e' := by
  cases i with
  | zero => cases h <;> cases h' <;> simp_all [LocaleCheck.Declares]
  | succ i =>
    rcases defect_succ_iff.mp h with hd | ⟨hi, _, rfl⟩ <;>
      rcases defect_succ_iff.mp h' with hd' | ⟨hi', _, rfl⟩
    · exact hd.unique hd'
    · exact absurd hd.lt_length (hi' ▸ Nat.lt_irrefl _)
    · exact absurd hd'.lt_length (hi ▸ Nat.lt_irrefl _)
    · rfl

/-- Planning fails with the first defect, or there is none. -/
theorem plan_cases (c : ColumnSpec) (schemaLocale : Option String) (source : LocaleSource) :
    (∃ e, First (c.Defect schemaLocale source) e ∧ c.plan schemaLocale source = .error e) ∨
      (∀ i e, ¬ c.Defect schemaLocale source i e) ∧ ∃ p, c.plan schemaLocale source = .ok p := by
  obtain ⟨d₁, hd₁, hnext⟩ : ∃ d, (if c.rules.any Rule.isRequired then
      PlanDraft.empty.addOne c.name .required "required" .required "This field is required"
      else .ok PlanDraft.empty) = .ok d ∧ d.next = c.typeCode := by
    unfold typeCode
    cases c.rules.any Rule.isRequired <;> exact ⟨_, rfl, rfl⟩
  rw [plan_eq, hd₁, ok_bind]
  rcases typeOutcome c schemaLocale source hnext with ⟨e, hdefect, he⟩ | ⟨htype, check, d₂, hcheck,
    hd₂, hcode⟩
  · exact .inl ⟨e, .of_zero hdefect, he _⟩
  rw [hcheck, ok_bind, hd₂, ok_bind]
  have hrules := addRules_cases c (c.numberReader check) c.rules d₂
  rw [hcode] at hrules
  rcases hrules with ⟨e, ⟨i, hi, hfirst⟩, he⟩ | ⟨hrules, d₃, hd₃⟩
  · refine .inl ⟨e, .succ htype (fun _ _ => defect_succ_iff) ⟨i, .inl hi, fun j hj e' => ?_⟩, ?_⟩
    · rintro (hd | ⟨rfl, _⟩)
      · exact hfirst j hj e' hd
      · exact Nat.lt_asymm hj hi.lt_length
    · rw [he, error_bind]
  rw [hd₃, ok_bind]
  split
  · rename_i hn
    refine .inl ⟨_, .succ htype (fun _ _ => defect_succ_iff)
      ⟨c.rules.length, .inr ⟨rfl, hn, rfl⟩, fun j hj e' => ?_⟩, rfl⟩
    rintro (hd | ⟨rfl, _⟩)
    · exact hrules j e' hd
    · exact Nat.lt_irrefl _ hj
  · rename_i hn
    refine .inr ⟨fun i e hdefect => ?_, _, rfl⟩
    cases i with
    | zero => exact htype e hdefect
    | succ i =>
      rcases defect_succ_iff.mp hdefect with hd | ⟨_, hlt, _⟩
      · exact hrules i e hd
      · exact hn hlt

/-- A column cannot be planned exactly when its description has a defect, and the error is that of
the first one. -/
theorem plan_eq_error_iff (c : ColumnSpec) (schemaLocale : Option String) (source : LocaleSource) :
    ((∃ e, c.plan schemaLocale source = .error e) ↔ ∃ i e, c.Defect schemaLocale source i e) ∧
      ∀ e, c.plan schemaLocale source = .error e ↔
        ∃ i, c.Defect schemaLocale source i e ∧
          ∀ j < i, ∀ e', ¬ c.Defect schemaLocale source j e' := by
  rcases c.plan_cases schemaLocale source with ⟨e, hfirst, he⟩ | ⟨hnone, p, hp⟩
  · refine ⟨⟨fun _ => ?_, fun _ => ⟨e, he⟩⟩, fun e' => ?_⟩
    · obtain ⟨i, hi, _⟩ := hfirst
      exact ⟨i, e, hi⟩
    · rw [he, Except.error.injEq]
      constructor
      · rintro rfl
        exact hfirst
      · intro hfirst'
        exact First.unique (P := c.Defect schemaLocale source) Defect.unique hfirst hfirst'
  · refine ⟨⟨fun ⟨e, he⟩ => ?_, fun ⟨i, e, hi⟩ => absurd hi (hnone i e)⟩, fun e => ⟨fun he => ?_, ?_⟩⟩
    · cases hp.symm.trans he
    · cases hp.symm.trans he
    · rintro ⟨i, hi, _⟩
      exact absurd hi (hnone i e)

end ColumnSpec
end TableAudit
