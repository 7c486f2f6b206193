import TableAudit.Proofs.Locale.Numbers
import TableAudit.Proofs.Plan.Answers

/-! Names of one locale: those with one normal form, and a language with the first of its
locales. -/
namespace TableAudit

namespace LocaleFormat

def IsFirst (f : LocaleFormat) : Prop := all.find? (fun g => g.language = f.language) = some f

/-- Names in one normal form, and those of a language and of the first of its locales. -/
inductive Synonyms : String → String → Prop
  | form {a b} : normalName a = normalName b → Synonyms a b
  | language {f : LocaleFormat} {a b} : f.IsFirst → normalName a = f.language.toList →
      normalName b = normalName f.id → Synonyms a b
  | symm {a b} : Synonyms a b → Synonyms b a

variable {f : LocaleFormat} {a b name : String}

private theorem find?_eq_of_normalName (h : normalName a = normalName b) : find? a = find? b := by
  rw [find?, find?, h]

private theorem find?_language (h : f.IsFirst) : find? f.language = some f := by
  have hmem := List.mem_of_find?_eq_some h
  simp only [all, List.mem_cons, List.not_mem_nil, or_false] at hmem
  rcases hmem with rfl | rfl | rfl | rfl
  case inr.inl => exact absurd (congrArg (Option.map region) h) (by decide)
  all_goals rfl

private theorem find?_eq_of_synonyms (h : Synonyms a b) : find? a = find? b := by
  induction h with
  | form h => exact find?_eq_of_normalName h
  | @language f a b hfirst ha hb =>
    have hmem := List.mem_of_find?_eq_some hfirst
    have hnormal : ∀ f ∈ all, normalName f.language = f.language.toList := by decide
    rw [find?_eq_of_normalName (ha.trans (hnormal f hmem).symm), find?_eq_of_normalName hb,
      find?_language hfirst, find?_id hmem]
  | symm _ ih => exact ih.symm

private theorem normalName_of_find? (h : find? name = some f) :
    normalName name = normalName f.id ∨ f.IsFirst ∧ normalName name = f.language.toList := by
  have hmem := mem_all_of_find? h
  have hnormal : ∀ f ∈ all, f.id.toList.map Char.toLower = normalName f.id := by decide
  simp only [find?] at h
  split at h
  · next g hg =>
    cases h
    have hname := List.find?_some hg
    rw [decide_eq_true_eq, hnormal f hmem] at hname
    exact .inl hname.symm
  · split at h
    · cases h
    · have hname := List.find?_some h
      rw [decide_eq_true_eq] at hname
      refine .inr ⟨?_, hname.symm⟩
      unfold IsFirst
      simpa only [← hname, String.toList_inj] using h

private theorem find?_eq_some_iff_synonyms (ha : find? a = some f) :
    find? b = some f ↔ Synonyms a b := by
  constructor
  · intro hb
    rcases normalName_of_find? ha with ha | ⟨hfirst, ha⟩
    · rcases normalName_of_find? hb with hb | ⟨hfirst, hb⟩
      · exact .form (ha.trans hb.symm)
      · exact .symm (.language hfirst hb ha)
    · rcases normalName_of_find? hb with hb | ⟨-, hb⟩
      · exact .language hfirst ha hb
      · exact .form (ha.trans hb.symm)
  · intro h
    rw [← find?_eq_of_synonyms h, ha]

private theorem find?_isSome_iff : (find? name).isSome = true ↔
    String.ofList (normalName name) ∈ ["en-us", "en-gb", "de-de", "fr-fr", "en", "de", "fr"] := by
  rw [Option.isSome_iff_exists]
  constructor
  · rintro ⟨f, hf⟩
    have hknown : ∀ f ∈ all, String.ofList (normalName f.id) ∈
        ["en-us", "en-gb", "de-de", "fr-fr", "en", "de", "fr"] ∧
      f.language ∈ ["en-us", "en-gb", "de-de", "fr-fr", "en", "de", "fr"] := by decide
    obtain ⟨hid, hlanguage⟩ := hknown f (mem_all_of_find? hf)
    rcases normalName_of_find? hf with h | ⟨-, h⟩
    · rw [h]
      exact hid
    · rw [h, String.ofList_toList]
      exact hlanguage
  · intro hmem
    have hfound : ∀ known ∈ ["en-us", "en-gb", "de-de", "fr-fr", "en", "de", "fr"],
        normalName known = known.toList ∧ (find? known).isSome = true := by decide
    obtain ⟨hnormal, hsome⟩ := hfound _ hmem
    rw [String.toList_ofList] at hnormal
    rw [find?_eq_of_normalName hnormal] at hsome
    exact Option.isSome_iff_exists.mp hsome

private theorem standard_check?_eq_bind (type : CellType) (name : String) (code : UInt8) :
    LocaleSource.standard.check? type name code = (find? name).bind fun f => f.check? type :=
  rfl

private theorem faults_ne_nil {type : CellType} {check : LocaleCheck}
    (h : f.check? type = some check) : check.faults ≠ [] := by
  cases type with
  | string | integer | enum => cases h
  | number | date | boolean | phone | currency =>
    cases h
    exact List.cons_ne_nil _ _

end LocaleFormat

open LocaleFormat (Synonyms)

/-- Plans that are the same but for the name of their locale. -/
structure ColumnPlan.SameTests (p q : ColumnPlan) : Prop where
  notices : p.notices = q.notices
  validate : ∀ value, p.validate value = q.validate value
  rest : q = { p with locale := q.locale }

namespace ColumnSpec

def withLocale (c : ColumnSpec) (locale : Option String) : ColumnSpec := { c with locale := locale }

variable {c : ColumnSpec}

def planChecked (c : ColumnSpec) (locale : Option String) (check : Option LocaleCheck)
    (d : PlanDraft) : Except PlanError ColumnPlan := do
  let d ← c.addType check d
  let d ← c.rules.foldlM (c.addRule (c.numberReader check)) d
  if Finding.customLimit < (c.rules.filterMap Rule.custom?).length then
    .error (.tooManyCustomRules c.name (c.rules.filterMap Rule.custom?).length)
  else
    .ok ⟨c.name, c.cellType, locale, d.tests, d.notices, c.rules.any Rule.isRequired,
      c.rules.any Rule.isUnique, c.rules.filterMap Rule.custom?⟩

private theorem planChecked_sameOutcome (locale locale' : Option String)
    (check : Option LocaleCheck)
    (d : PlanDraft) : SameOutcome ColumnPlan.SameTests (c.planChecked locale check d)
      (c.planChecked locale' check d) := by
  refine .bind_same _ fun d₁ => .bind_same _ fun d₂ => ?_
  split
  · exact .error _
  · exact .ok ⟨rfl, fun _ => rfl, rfl⟩

private theorem exists_plan_withLocale (c : ColumnSpec) :
    ∃ d : PlanDraft, ∀ own schemaLocale source, (c.withLocale own).plan schemaLocale source =
      c.localeCheck? (own.or schemaLocale) source d.next >>= fun check =>
        c.planChecked (own.or schemaLocale) check d := by
  obtain ⟨d, hd⟩ : ∃ d, (if c.rules.any Rule.isRequired then
      PlanDraft.empty.addOne c.name .required "required" .required "This field is required"
    else .ok PlanDraft.empty) = .ok d := by
    split
    all_goals exact ⟨_, rfl⟩
  refine ⟨d, fun own schemaLocale source => (plan_eq _ _ _).trans ?_⟩
  -- the column with another locale has the same rules, so the same draft to start with
  show (if c.rules.any Rule.isRequired then
      PlanDraft.empty.addOne c.name .required "required" .required "This field is required"
    else .ok PlanDraft.empty) >>= _ = _
  rw [hd]
  rfl

private theorem localeCheck?_of_synonyms {locale locale' : Option String}
    (h : Option.Rel Synonyms locale locale') (base : UInt8) :
    c.localeCheck? locale .standard base = c.localeCheck? locale' .standard base ∨
      ∃ a b, locale = some a ∧ locale' = some b ∧
        c.localeCheck? locale .standard base = .error (.unknownLocale c.name a c.cellType) ∧
        c.localeCheck? locale' .standard base = .error (.unknownLocale c.name b c.cellType) := by
  cases h with
  | none => exact .inl rfl
  | @some a b hab =>
    have hcheck : LocaleSource.standard.check? c.cellType a base =
        LocaleSource.standard.check? c.cellType b base := by
      rw [LocaleFormat.standard_check?_eq_bind, LocaleFormat.standard_check?_eq_bind,
        LocaleFormat.find?_eq_of_synonyms hab]
    unfold localeCheck?
    simp only [hcheck]
    split
    · exact .inl rfl
    · cases hb : LocaleSource.standard.check? c.cellType b base with
      | none => exact .inr ⟨a, b, rfl, rfl, rfl, rfl⟩
      | some check =>
        rw [LocaleFormat.standard_check?_eq_bind, Option.bind_eq_some_iff] at hb
        obtain ⟨f, -, hf⟩ := hb
        -- the error of an empty check would name the locale too
        have hfaults : check.faults.isEmpty = false :=
          List.isEmpty_eq_false_iff.mpr (LocaleFormat.faults_ne_nil hf)
        simp only [hfaults]
        exact .inl rfl

/-- The built-in locales know the names with one of seven normal forms. The synonyms of such a name
are the other names of its locale, as are a language and its first locale. A column is planned alike
under names with one normal form and under a language and the first of its locales, whether they are
of the column or of the schema: it fails with the same error, or its tests find the same faults with
the same notices. Only the error that a name is unknown says which it was. -/
theorem plan_of_synonyms :
    (∀ name, LocaleSource.standardSupports name = true ↔ String.ofList (LocaleFormat.normalName name) ∈
      ["en-us", "en-gb", "de-de", "fr-fr", "en", "de", "fr"]) ∧
    (∀ a b f, LocaleFormat.find? a = some f → (LocaleFormat.find? b = some f ↔ Synonyms a b)) ∧
    (Synonyms "en" "en-US" ∧ Synonyms "de" "de-DE" ∧ Synonyms "fr" "fr-FR") ∧
    ∀ (c : ColumnSpec) (own own' schemaLocale schemaLocale' : Option String),
      Option.Rel Synonyms (own.or schemaLocale) (own'.or schemaLocale') →
      SameOutcome ColumnPlan.SameTests ((c.withLocale own).plan schemaLocale .standard)
          ((c.withLocale own').plan schemaLocale' .standard) ∨
        ∃ a b, own.or schemaLocale = some a ∧ own'.or schemaLocale' = some b ∧
          (c.withLocale own).plan schemaLocale .standard =
            .error (.unknownLocale c.name a c.cellType) ∧
          (c.withLocale own').plan schemaLocale' .standard =
            .error (.unknownLocale c.name b c.cellType) := by
  refine ⟨fun _ => LocaleFormat.find?_isSome_iff, fun _ _ _ => LocaleFormat.find?_eq_some_iff_synonyms,
    ⟨?en, ?de, ?fr⟩, ?plans⟩
  case en => exact .language (f := .american) rfl rfl rfl
  case de => exact .language (f := .german) rfl rfl rfl
  case fr => exact .language (f := .french) rfl rfl rfl
  case plans =>
    intro c own own' schemaLocale schemaLocale' h
    obtain ⟨d, hplan⟩ := c.exists_plan_withLocale
    rw [hplan, hplan]
    rcases c.localeCheck?_of_synonyms h d.next with heq | ⟨a, b, hown, hown', ha, hb⟩
    · rw [heq]
      exact .inl (.bind_same _ fun _ => planChecked_sameOutcome _ _ _ _)
    · rw [ha, hb]
      exact .inr ⟨a, b, hown, hown', rfl, rfl⟩

private def billSpec : ColumnSpec := ⟨"bill", .date, [.required], none, []⟩

/-- The name is of the column or of the schema; a region that is not built in has no language to fall
back on. -/
theorem plan_of_synonyms_bill : Synonyms "\tDE_de" "de" ∧
    LocaleSource.standardSupports "\tDE_de" = true ∧ ¬ LocaleSource.standardSupports "de-AT" = true ∧
    ∃ p q, (billSpec.withLocale (some "\tDE_de")).plan (some "fr") .standard = .ok p ∧
      (billSpec.withLocale none).plan (some "de") .standard = .ok q ∧
      p.validate "31.12.2024" = q.validate "31.12.2024" := by
  have hsynonyms : Synonyms "\tDE_de" "de" := .symm (.language (f := .german) rfl rfl rfl)
  obtain ⟨hsupports, -, -, hplans⟩ := plan_of_synonyms
  obtain ⟨p, hp⟩ : ∃ p, (billSpec.withLocale (some "\tDE_de")).plan (some "fr") .standard = .ok p :=
    ⟨_, rfl⟩
  refine ⟨hsynonyms, (hsupports _).mpr (by decide), (hsupports _).not.mpr (by decide), ?_⟩
  rcases hplans billSpec (some "\tDE_de") none (some "fr") (some "de") (.some hsynonyms) with
    hsame | ⟨_, _, _, _, herror, _⟩
  · obtain ⟨q, hq, hpq⟩ := hsame.exists_ok hp
    exact ⟨p, q, hp, hq, hpq.validate _⟩
  · cases hp.symm.trans herror

end ColumnSpec
end TableAudit
