import TableAudit.Proofs.Audit.Columns
import TableAudit.Proofs.Plan.Answers

/-! Predicates of custom rules and checks of locales are functions from outside. What they answer
where a pass does not ask them changes nothing. -/
namespace TableAudit

/-- Columns that find the same in single values and say the same about it. -/
structure ColumnPlan.FindsSame (q q' : ColumnPlan) : Prop where
  name : q.name = q'.name
  isUnique : q.isUnique = q'.isUnique
  finding? : ∀ value, q.finding? value = q'.finding? value
  noticeOf? : ∀ f, q.noticeOf? f = q'.noticeOf? f

structure Visit.FindsSame (v v' : Visit) : Prop where
  row : v.row = v'.row
  col : v.col = v'.col
  value : v.value = v'.value
  column : v.column.FindsSame v'.column

namespace Progress
variable {m : Matching} {v v' : Visit}

private theorem note_eq (h : v.FindsSame v') (s : Progress) (f : Finding) :
    s.note v f = s.note v' f := by
  rw [note, note, h.row, h.col, ColumnPlan.ruleOf, h.column.noticeOf?, h.column.name]
  rfl

private theorem visit_eq (h : v.FindsSame v') (s : Progress) : s.visit m v = s.visit m v' := by
  unfold visit
  rw [h.value, h.column.finding?, h.column.isUnique, h.col]
  simp only [note_eq h]

private theorem foldl_visit_eq {vs vs' : List Visit} (h : List.Forall₂ Visit.FindsSame vs vs')
    (s : Progress) : vs.foldl (visit m) s = vs'.foldl (visit m) s := by
  induction h generalizing s with
  | nil => rfl
  | cons hv _ ih => rw [List.foldl_cons, List.foldl_cons, visit_eq hv, ih]

end Progress

private theorem forall₂_zipIdx {α β : Type} {R : α → β → Prop} {as : List α} {bs : List β}
    (h : List.Forall₂ R as bs) (n : Nat) :
    List.Forall₂ (fun x y => R x.1 y.1 ∧ x.2 = y.2) (as.zipIdx n) (bs.zipIdx n) := by
  induction h generalizing n with
  | nil => exact .nil
  | cons hab _ ih =>
    rw [List.zipIdx_cons, List.zipIdx_cons]
    exact .cons ⟨hab, rfl⟩ (ih (n + 1))

/-- Audits with the same marks, counts and records in every view. -/
structure Audit.ShowsSame (a b : Audit) : Prop where
  marks : a.marks = b.marks
  tally : a.tally = b.tally
  record? : ∀ row col, a.record? row col = b.record? row col
  page : ∀ offset limit, a.page offset limit = b.page offset limit
  rowRecords : ∀ row, a.rowRecords row = b.rowRecords row
  report : a.report = b.report

private theorem Audit.showsSame_of_record? {a b : Audit} (hmarks : a.marks = b.marks)
    (htally : a.tally = b.tally) (hrecord : ∀ row col, a.record? row col = b.record? row col) :
    a.ShowsSame b := by
  have hpage : ∀ offset limit, a.page offset limit = b.page offset limit := fun offset limit => by
    simp only [page, cols, hmarks, hrecord]
  refine ⟨hmarks, htally, hrecord, hpage, fun row => ?rows, ?report⟩
  case rows => simp only [rowRecords, hmarks, hrecord]
  case report => simp only [Audit.report, records, hpage, rows, faultyRows, hmarks, htally]

namespace AuditPlan
variable {p p' : AuditPlan}

private theorem visits_findSame (h : List.Forall₂ ColumnPlan.FindsSame p.columns p'.columns)
    (o : Options) (t : Table) : List.Forall₂ Visit.FindsSame (p.visits o t) (p'.visits o t) := by
  have hrows : List.Forall₂ Eq t.toList.zipIdx t.toList.zipIdx :=
    List.forall₂_same.mpr fun _ _ => rfl
  refine List.rel_flatMap hrows ?_
  rintro ⟨cells, row⟩ _ rfl
  refine List.rel_map ?_ (forall₂_zipIdx h 0)
  rintro ⟨q, col⟩ ⟨q', _⟩ ⟨hq, rfl⟩
  exact ⟨rfl, rfl, rfl, hq⟩

private theorem audit_showsSame (h : List.Forall₂ ColumnPlan.FindsSame p.columns p'.columns)
    (o : Options) (t : Table) : (p.audit o t).ShowsSame (p'.audit o t) := by
  have hprogress := Progress.foldl_visit_eq (m := o.matching) (visits_findSame h o t)
    (.start t.size p.columns.length)
  have hmarks : (p.audit o t).marks = (p'.audit o t).marks := by
    rw [audit, audit, ← h.length_eq, hprogress]
  have htally : (p.audit o t).tally = (p'.audit o t).tally := by
    rw [audit, audit, ← h.length_eq, hprogress]
  refine Audit.showsSame_of_record? hmarks htally fun row col => ?_
  have hcolumn := forall₂_getElem? h col
  simp only [Audit.record?, hmarks]
  change (_ >>= fun f => p.columns[col]? >>= _) = (_ >>= fun f => p'.columns[col]? >>= _)
  generalize p.columns[col]? = q, p'.columns[col]? = q' at hcolumn ⊢
  cases hcolumn with
  | none => rfl
  | some hq =>
    simp only [Option.bind_eq_bind, Option.bind_some, hq.noticeOf?, hq.name]
    rfl

end AuditPlan

/-- Rules that are the same but for the predicate of a custom rule. -/
inductive Rule.SameButPredicate : Rule → Rule → Prop
  | refl (r : Rule) : SameButPredicate r r
  | custom {a b : CustomRule} : a.message = b.message → SameButPredicate (.custom a) (.custom b)

structure ColumnSpec.SameButPredicates (c c' : ColumnSpec) : Prop where
  name : c.name = c'.name
  cellType : c.cellType = c'.cellType
  locale : c.locale = c'.locale
  rules : List.Forall₂ Rule.SameButPredicate c.rules c'.rules

structure Schema.SameButPredicates (s s' : Schema) : Prop where
  locale : s.locale = s'.locale
  columns : List.Forall₂ ColumnSpec.SameButPredicates s.columns s'.columns

structure ColumnPlan.SameButPredicates (q q' : ColumnPlan) : Prop where
  rest : q' = { q with customRules := q'.customRules }
  messages : List.Forall₂ (fun r r' => r.message = r'.message) q.customRules q'.customRules

/-- The custom rules agree with these at every position, on the values that are not empty, pass the
tests of the column and are accepted by its custom rules before. -/
def ColumnPlan.AgreesInTurn (q : ColumnPlan) (rules : List CustomRule) : Prop :=
  ∀ j r r', q.customRules[j]? = some r → rules[j]? = some r' → ∀ value, value ≠ "" →
    q.validate value = 0 → (∀ u ∈ q.customRules.take j, u.accepts value = true) →
      r.accepts value = r'.accepts value

private theorem findIdx?_rejects_eq {rules rules' : List CustomRule} {value : String}
    (h : List.Forall₂ (fun r r' => r.message = r'.message) rules rules')
    (hagree : ∀ j r r', rules[j]? = some r → rules'[j]? = some r' →
      (∀ u ∈ rules.take j, u.accepts value = true) → r.accepts value = r'.accepts value) :
    rules.findIdx? (fun r => !r.accepts value) = rules'.findIdx? fun r => !r.accepts value := by
  induction h with
  | nil => rfl
  | @cons r r' rules rules' _ _ ih =>
    have hfirst : r.accepts value = r'.accepts value := hagree 0 r r' rfl rfl (by simp)
    rw [List.findIdx?_cons, List.findIdx?_cons, ← hfirst]
    cases hr : r.accepts value with
    | false => rfl
    | true =>
      -- the rules behind are asked only now that this one accepts the value
      have hrest := ih fun j u u' hu hu' hbefore =>
        hagree (j + 1) u u' hu hu' (List.forall_mem_cons.mpr ⟨hr, hbefore⟩)
      rw [hrest]

namespace ColumnPlan
variable {q q' : ColumnPlan}

private theorem finding?_congr {value : String} (hfault : q.fault? value = q'.fault? value)
    (hcustom : q.fault? value = none → value ≠ "" →
      q.failingCustom? value = q'.failingCustom? value) : q.finding? value = q'.finding? value := by
  unfold finding?
  rw [← hfault]
  cases hf : q.fault? value with
  | some k => rfl
  | none =>
    by_cases hv : value = ""
    · simp [hv]
    · simp [hv, hcustom hf hv]

private theorem SameFaults.findsSame (h : q.SameFaults q') : q.FindsSame q' := by
  have hfault := h.fault?
  rw [h.rest] at hfault ⊢
  exact ⟨rfl, rfl, fun value => finding?_congr (hfault value) fun _ _ => rfl,
    fun f => by cases f <;> rfl⟩

private theorem SameButPredicates.findsSame (h : q.SameButPredicates q') (hq : q.Sound)
    (hagree : q.AgreesInTurn q'.customRules) : q.FindsSame q' := by
  have hmessages := h.messages
  rw [h.rest]
  refine ⟨rfl, rfl, fun value => finding?_congr rfl fun hf hv => ?custom, fun f => ?notice⟩
  case custom =>
    have hpass := hq.validate_eq_zero_iff.mpr hf
    exact findIdx?_rejects_eq hmessages fun j r r' hr hr' => hagree j r r' hr hr' value hv hpass
  case notice =>
    cases f with
    | check | repeated => rfl
    | custom i =>
      have hrule := forall₂_getElem? hmessages i.toNat
      change Option.map _ _ = Option.map _ q'.customRules[i.toNat]?
      generalize q.customRules[i.toNat]? = r, q'.customRules[i.toNat]? = r' at hrule ⊢
      cases hrule with
      | none => rfl
      | some hr => simp only [Option.map_some, hr]

end ColumnPlan

section Planning
variable {rules rules' : List Rule} {c c' : ColumnSpec} {s s' : Schema}

private theorem any_eq_of_sameButPredicate (h : List.Forall₂ Rule.SameButPredicate rules rules')
    {f : Rule → Bool} (hf : ∀ a b, f (.custom a) = f (.custom b)) : rules.any f = rules'.any f := by
  induction h with
  | nil => rfl
  | cons hr _ ih =>
    rw [List.any_cons, List.any_cons, ih]
    cases hr with
    | refl => rfl
    | custom => rw [hf]

private theorem foldlM_addRule_eq (h : List.Forall₂ Rule.SameButPredicate rules rules')
    (read : String → Option Binary64) (d : PlanDraft) :
    rules.foldlM (c.addRule read) d = rules'.foldlM (c.addRule read) d := by
  induction h generalizing d with
  | nil => rfl
  | cons hr _ ih =>
    rw [List.foldlM_cons, List.foldlM_cons]
    cases hr with
    | refl r => exact bind_congr ih
    | custom => exact ih d

private theorem messages_of_sameButPredicate
    (h : List.Forall₂ Rule.SameButPredicate rules rules') :
    List.Forall₂ (fun r r' => r.message = r'.message) (rules.filterMap Rule.custom?)
      (rules'.filterMap Rule.custom?) := by
  refine List.rel_filterMap ?_ h
  rintro r r' (_ | hm)
  · cases r <;> first | exact .none | exact .some rfl
  · exact .some hm

private theorem ColumnSpec.SameButPredicates.plan (h : c.SameButPredicates c')
    (schemaLocale : Option String) (source : LocaleSource) :
    SameOutcome ColumnPlan.SameButPredicates (c.plan schemaLocale source)
      (c'.plan schemaLocale source) := by
  obtain ⟨hname, htype, hlocale, hrules⟩ := h
  obtain ⟨name, cellType, rules, locale, aliases⟩ := c
  obtain ⟨name', cellType', rules', locale', aliases'⟩ := c'
  simp only at hname htype hlocale hrules
  subst hname htype hlocale
  have hmessages := messages_of_sameButPredicate hrules
  rw [plan_eq, plan_eq]
  simp only [any_eq_of_sameButPredicate hrules (f := Rule.isRequired) fun _ _ => rfl,
    any_eq_of_sameButPredicate hrules (f := Rule.isUnique) fun _ _ => rfl,
    foldlM_addRule_eq hrules, hmessages.length_eq]
  refine .bind_same _ fun _ => .bind_same _ fun _ => .bind_same _ fun _ => .bind_same _ fun _ => ?_
  split
  · exact .error _
  · exact .ok ⟨rfl, hmessages⟩

private theorem Schema.SameButPredicates.plan (h : s.SameButPredicates s') (source : LocaleSource) :
    SameOutcome (fun p p' => List.Forall₂ ColumnPlan.SameButPredicates p.columns p'.columns)
      (s.plan source) (s'.plan source) := by
  have hnames : s.names = s'.names := by
    rw [names, names, map_eq_map_iff_forall₂]
    exact h.columns.imp fun _ _ => ColumnSpec.SameButPredicates.name
  have hcolumns : List.Forall₂ (fun c c' => SameOutcome ColumnPlan.SameButPredicates
      (c.plan s.locale source) (c'.plan s'.locale source)) s.columns s'.columns :=
    h.columns.imp fun _ _ hc => h.locale ▸ hc.plan s.locale source
  rw [Schema.plan, Schema.plan, checkNames, checkNames, hnames]
  refine .bind_same _ fun _ => ?_
  exact (SameOutcome.mapM hcolumns).bind fun _ _ hqs => SameOutcome.ok hqs

end Planning

private theorem ColumnSpec.customRules_of_plan {c : ColumnSpec} {schemaLocale : Option String}
    {source : LocaleSource} {q : ColumnPlan} (h : c.plan schemaLocale source = .ok q) :
    q.customRules = c.rules.filterMap Rule.custom? := by
  obtain ⟨_, _, _, rfl⟩ := plan_eq_ok h
  rfl

/-- What an audit takes from functions from outside. With other predicates that have the same
messages and agree wherever they are asked, and with other checks that have the same faults and
agree on all values but the empty one, a schema can be planned as before, and no view of an audit
changes. -/
theorem Schema.audit_of_sameAnswers {s : Schema} {source : LocaleSource} {p : AuditPlan}
    (h : s.plan source = .ok p) :
    (∀ s' : Schema, s.SameButPredicates s' →
      (∀ (col : Nat) (q : ColumnPlan) (c' : ColumnSpec), p.columns[col]? = some q →
        s'.columns[col]? = some c' → q.AgreesInTurn (c'.rules.filterMap Rule.custom?)) →
      ∃ p', s'.plan source = .ok p' ∧ ∀ o t, (p.audit o t).ShowsSame (p'.audit o t)) ∧
    ∀ source' : LocaleSource, source.SameAnswers source' →
      ∃ p', s.plan source' = .ok p' ∧ ∀ o t, (p.audit o t).ShowsSame (p'.audit o t) := by
  refine ⟨fun s' hs' hagree => ?predicates, fun source' hsource => ?checks⟩
  case predicates =>
    obtain ⟨p', h', hsame⟩ := (hs'.plan source).exists_ok h
    have hplans := (plan_eq_ok.mp h').2
    refine ⟨p', h', AuditPlan.audit_showsSame (List.forall₂_iff_get.mpr ⟨hsame.length_eq, ?_⟩)⟩
    intro col hcol hcol'
    have hspec : col < s'.columns.length := hplans.length_eq ▸ hcol'
    have hrules := ColumnSpec.customRules_of_plan (hplans.get hspec hcol')
    refine (hsame.get hcol hcol').findsSame (plan_sound h _ (List.get_mem _ _)) ?_
    rw [hrules]
    exact hagree col _ _ (List.getElem?_eq_getElem hcol) (List.getElem?_eq_getElem hspec)
  case checks =>
    obtain ⟨p', h', hsame⟩ := (s.plan_sameOutcome hsource).exists_ok h
    exact ⟨p', h', AuditPlan.audit_showsSame (hsame.imp fun _ _ => ColumnPlan.SameFaults.findsSame)⟩

private def oneSource (onEmpty : Option UInt8) (emptyNumber : Option Binary64) : LocaleSource :=
  ⟨fun _ _ _ => some ⟨[⟨0, "Must be one"⟩],
    fun v => if v = "" then onEmpty else if v = "1" then none else some 0,
    fun v => if v = "" then emptyNumber else none⟩⟩

private def oneSchema (accepts : String → Bool) : Schema :=
  ⟨[⟨"one", .number, [.custom ⟨0, accepts, "Must be new"⟩], some "xx", []⟩], none⟩

/-- Predicates may answer otherwise about the empty value and about one that the check of the locale
rejects, and checks about the empty value. -/
theorem Schema.audit_of_sameAnswers_one :
    ∃ p p₁ p₂, (oneSchema fun _ => true).plan (oneSource none none) = .ok p ∧
      (oneSchema fun v => v ≠ "" && v ≠ "2").plan (oneSource none none) = .ok p₁ ∧
      (oneSchema fun _ => true).plan (oneSource (some 7) (some ⟨0⟩)) = .ok p₂ ∧
      (p.audit ⟨true, .exact⟩ #[#[" "], #["2"]]).report =
        (p₁.audit ⟨true, .exact⟩ #[#[" "], #["2"]]).report ∧
      (p.audit ⟨true, .exact⟩ #[#[" "], #["2"]]).report =
        (p₂.audit ⟨true, .exact⟩ #[#[" "], #["2"]]).report := by
  obtain ⟨q, hp, hrules, htwo⟩ : ∃ q,
      (oneSchema fun _ => true).plan (oneSource none none) = .ok ⟨[q]⟩ ∧
        q.customRules = [⟨0, fun _ => true, "Must be new"⟩] ∧ q.validate "2" ≠ 0 :=
    ⟨_, rfl, rfl, by decide⟩
  obtain ⟨hpredicates, hchecks⟩ := Schema.audit_of_sameAnswers hp
  have hsame : (oneSchema fun _ => true).SameButPredicates (oneSchema fun v => v ≠ "" && v ≠ "2") :=
    ⟨rfl, .cons ⟨rfl, rfl, rfl, .cons (.custom rfl) .nil⟩ .nil⟩
  have hagree : q.AgreesInTurn [⟨0, fun v => v ≠ "" && v ≠ "2", "Must be new"⟩] := by
    intro j r r' hr hr' value hv hpass _
    have htwo' : value ≠ "2" := fun he => htwo (he ▸ hpass)
    rw [hrules] at hr
    cases j with
    | zero =>
      cases hr
      cases hr'
      simp [hv, htwo']
    | succ j => cases hr
  have hsource : (oneSource none none).SameAnswers (oneSource (some 7) (some ⟨0⟩)) :=
    fun _ _ _ => .some ⟨rfl, fun v hv => by simp [hv]⟩
  obtain ⟨p₁, h₁, hshows₁⟩ := hpredicates _ hsame fun col q' c' hq' hc' => by
    cases col with
    | zero =>
      cases hq'
      cases hc'
      exact hagree
    | succ col => cases hq'
  obtain ⟨p₂, h₂, hshows₂⟩ := hchecks _ hsource
  exact ⟨_, p₁, p₂, hp, h₁, h₂, (hshows₁ _ _).report, (hshows₂ _ _).report⟩

end TableAudit
