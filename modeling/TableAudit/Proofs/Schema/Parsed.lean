import TableAudit.Plan.Schema
import TableAudit.Proofs.Json.Readers
import TableAudit.Proofs.Plan.Defects
import TableAudit.Proofs.Schema.Written

/-! What holds of every schema that was read from a text, and the errors of planning that this rules
out. -/
namespace TableAudit

open Json (Node Items Members Gives gives_pure gives_error gives_true gives_needed gives_once)

/-- Rules that can be written and read again: they hold no predicate and no endless number. -/
structure Rule.Portable (r : Rule) : Prop where
  custom?_eq : r.custom? = none
  isFinite : ∀ b, r.bound? = some b → b.isFinite = true

def Json.InRange (j : Json) : Prop := ∀ b, j.asNumber? = some b → b.isFinite = true

def WrittenFields.InRange : WrittenFields → Prop
  | byName fields => ∀ f ∈ fields, f.2.InRange
  | byPosition fields => ∀ j ∈ fields, j.InRange

def WrittenRule.Portable : WrittenRule → Prop
  | plain r => r.custom? = none ∧ r.bound? = none
  | bound make => ∀ b, (make b).custom? = none ∧ (make b).bound? = some b
  | length make => ∀ n, (make n).custom? = none ∧ (make n).bound? = none
  | text | choices => True

private theorem WrittenRule.portable_of_ofName? {name : String} {kind : WrittenRule}
    (h : WrittenRule.ofName? name = some kind) : kind.Portable := by
  rw [WrittenRule.ofName?.eq_def] at h
  split at h <;> cases h <;> simp [Portable, Rule.custom?, Rule.bound?]

private theorem WrittenFields.inRange_only? {fields : WrittenFields} (h : fields.InRange)
    {name : String} {j : Json} (hj : fields.only? name = some j) : j.InRange := by
  cases fields with
  | byName fields =>
    rw [only?] at hj
    split at hj
    · next f hf =>
      cases hj
      exact h f (List.mem_of_mem_filter (hf ▸ List.mem_singleton_self f))
    · cases hj
  | byPosition fields =>
    rcases fields with _ | ⟨x, _ | _⟩
    · cases hj
    · cases hj
      exact h j List.mem_cons_self
    · cases hj

private theorem WrittenRule.portable_of_complete? {kind : WrittenRule} (hk : kind.Portable)
    {fields : WrittenFields} (hf : fields.InRange) {r : Rule}
    (h : kind.complete? fields = some r) : r.Portable := by
  cases kind with
  | plain r' =>
    obtain ⟨_, -, rfl⟩ := Option.map_eq_some_iff.mp h
    exact ⟨hk.1, by simp [hk.2]⟩
  | bound make =>
    obtain ⟨b, hb, rfl⟩ := Option.map_eq_some_iff.mp h
    obtain ⟨j, hj, hb⟩ := Option.bind_eq_some_iff.mp hb
    refine ⟨(hk b).1, fun b' hb' => ?_⟩
    cases (hk b).2.symm.trans hb'
    exact WrittenFields.inRange_only? hf hj b hb
  | length make =>
    obtain ⟨n, -, rfl⟩ := Option.map_eq_some_iff.mp h
    exact ⟨(hk n).1, by simp [(hk n).2]⟩
  | text | choices =>
    obtain ⟨_, -, rfl⟩ := Option.map_eq_some_iff.mp h
    exact ⟨rfl, by simp [Rule.bound?]⟩

namespace Json

private theorem gives_toJson (room : Nat) {x : Node} (hx : x.InRange) :
    Gives (x.toJson room) Json.InRange := by
  have hother {j : Json} (hj : j.asNumber? = none) : j.InRange := by simp [Json.InRange, hj]
  cases x with
  | number n =>
    cases n with
    | none => exact gives_error .malformed
    | some n =>
      refine gives_pure fun b hb => ?_
      cases hb
      exact hx
  | null => exact gives_pure (hother rfl)
  | bool b => exact gives_pure (hother rfl)
  | string s =>
    cases s with
    | none => exact gives_error .malformed
    | some s => exact gives_pure (hother rfl)
  | array items =>
    rw [Node.toJson]
    split
    · exact gives_error .malformed
    · exact (gives_true _).map fun _ _ => hother rfl
  | object members =>
    rw [Node.toJson]
    split
    · exact gives_error .malformed
    · exact (gives_true _).map fun _ _ => hother rfl
  | broken found => exact gives_error (Token.valueFault found)

private theorem Items.gives_toJson (room : Nat) : ∀ items : Items, items.InRange →
    Gives (items.toJson room) fun js => ∀ j ∈ js, Json.InRange j
  | .done, _ => gives_pure (by simp)
  | .cut f, _ => gives_error f
  | .item x rest, ⟨hx, hrest⟩ => by
    rw [Items.toJson]
    exact (Json.gives_toJson room hx).bind fun j hj => (gives_toJson room rest hrest).bind fun js hjs =>
      gives_pure (List.forall_mem_cons.mpr ⟨hj, hjs⟩)

private theorem gives_toWrittenRule (x : Node) : Gives x.toWrittenRule WrittenRule.Portable :=
  (gives_true x.toText).bind fun _ _ => gives_needed fun _ => WrittenRule.portable_of_ofName?

structure RuleDraft.Portable (d : RuleDraft) : Prop where
  kind : ∀ k, d.kind = some k → k.Portable
  fields : ∀ f ∈ d.fields, f.2.InRange

private theorem RuleDraft.gives_take (room : Nat) (name : String) (x : Node) (d : RuleDraft)
    (hx : x.InRange)
    (hd : d.Portable) : Gives (RuleDraft.take room name x d) RuleDraft.Portable := by
  rw [take]
  split
  · exact (gives_once (gives_toWrittenRule x)).bind fun kind hk => gives_pure ⟨hk, hd.fields⟩
  · exact (gives_toJson room hx).bind fun j hj =>
      gives_pure ⟨hd.kind, List.forall_mem_cons.mpr ⟨hj, hd.fields⟩⟩

private theorem gives_toRule (room : Nat) {x : Node} (hx : x.InRange) :
    Gives (x.toRule room) Rule.Portable := by
  cases x with
  | object members =>
    rw [Node.toRule]
    have hstart : (RuleDraft.mk none []).Portable := ⟨by simp, by simp⟩
    refine (members.gives_fold (RuleDraft.gives_take (room - 1)) _ hx hstart).bind fun d hd => ?_
    refine (gives_needed hd.kind).bind fun kind hk => gives_needed fun r => ?_
    have hfields : (WrittenFields.byName d.fields.reverse).InRange := by
      intro f hf
      exact hd.fields f (List.mem_reverse.mp hf)
    exact WrittenRule.portable_of_complete? hk hfields
  | array items =>
    cases items with
    | item first rest =>
      rw [Node.toRule]
      refine (gives_toWrittenRule first).bind fun kind hk => ?_
      refine (rest.gives_toJson (room - 1) hx.2).bind fun js hjs => gives_needed fun r => ?_
      have hfields : (WrittenFields.byPosition js).InRange := hjs
      exact WrittenRule.portable_of_complete? hk hfields
    | cut f => exact gives_error f
    | done => exact gives_error _
  | _ => exact gives_error _

def ColumnDraft.Portable (d : ColumnDraft) : Prop :=
  ∀ rules, d.rules = some rules → ∀ r ∈ rules, r.Portable

private theorem ColumnDraft.gives_take (name : String) (x : Node) (d : ColumnDraft) (hx : x.InRange)
    (hd : d.Portable) : Gives (ColumnDraft.take name x d) ColumnDraft.Portable := by
  rw [take.eq_def]
  split
  · exact (gives_true _).bind fun _ _ => gives_pure hd
  · exact (gives_true _).bind fun _ _ => gives_pure hd
  · exact (gives_once (Node.gives_toList (fun _ => gives_toRule ruleRoom) hx)).bind
      fun rules hrules => gives_pure hrules
  · exact (gives_true _).bind fun _ _ => gives_pure hd
  · exact (gives_true _).bind fun _ _ => gives_pure hd

private theorem gives_toColumn {x : Node} (hx : x.InRange) :
    Gives x.toColumn fun c => ∀ r ∈ c.rules, r.Portable := by
  have hstart : (ColumnDraft.mk none none none none none).Portable := by simp [ColumnDraft.Portable]
  rw [Node.toColumn]
  refine (Node.gives_toFields ColumnDraft.gives_take hstart hx).bind fun d hd => ?_
  refine (gives_true _).bind fun _ _ => (gives_true _).bind fun _ _ => gives_pure ?_
  cases hrules : d.rules with
  | none => simp
  | some rules => exact hd rules hrules

def SchemaDraft.Portable (d : SchemaDraft) : Prop :=
  ∀ columns, d.columns = some columns → ∀ c ∈ columns, ∀ r ∈ c.rules, r.Portable

private theorem SchemaDraft.gives_take (name : String) (x : Node) (d : SchemaDraft) (hx : x.InRange)
    (hd : d.Portable) : Gives (SchemaDraft.take name x d) SchemaDraft.Portable := by
  rw [take.eq_def]
  split
  · exact (gives_once (Node.gives_toList (fun _ => gives_toColumn) hx)).bind
      fun columns hcolumns => gives_pure hcolumns
  · exact (gives_true _).bind fun _ _ => gives_pure hd

private theorem gives_toSchema {x : Node} (hx : x.InRange) :
    Gives x.toSchema fun s => ∀ c ∈ s.columns, ∀ r ∈ c.rules, r.Portable := by
  have hstart : (SchemaDraft.mk none none).Portable := by simp [SchemaDraft.Portable]
  rw [Node.toSchema]
  refine (Node.gives_toFields SchemaDraft.gives_take hstart hx).bind fun d hd => ?_
  exact (gives_needed hd).bind fun columns hcolumns => gives_pure hcolumns

end Json

/-- The errors that are left for schemas from texts: none about names, endless bounds or predicates. -/
def PlanError.Remains : PlanError → Prop
  | badPattern .. | misplacedRule .. | noChoices _ | unknownLocale .. | emptyCheck ..
  | tooManyChecks _ => True
  | schema _ | endlessBound .. | tooManyCustomRules .. => False

private theorem ColumnSpec.remains_of_plan {c : ColumnSpec} (hc : ∀ r ∈ c.rules, r.Portable)
    {schemaLocale : Option String} {source : LocaleSource} {e : PlanError}
    (h : c.plan schemaLocale source = .error e) : e.Remains := by
  rcases c.plan_cases schemaLocale source with ⟨e', ⟨i, hdefect, -⟩, he⟩ | ⟨-, p, hp⟩
  · cases h.symm.trans he
    cases hdefect with
    | unknownLocale | emptyCheck | wideCheck => trivial
    | rule hrule =>
      cases hrule with
      | crowded => trivial
      | malformed hr hmalformed =>
        cases hmalformed with
        | endlessBound hb _ hendless =>
          have hfinite := (hc _ (List.mem_of_getElem? hr)).isFinite _ hb
          cases hendless.symm.trans hfinite
        | misplacedBound | badPattern | noChoices | misplacedEmail => trivial
    | customRules hmany =>
      have hnone : c.rules.filterMap Rule.custom? = [] :=
        List.filterMap_eq_nil_iff.mpr fun r hr => (hc r hr).custom?_eq
      rw [hnone] at hmany
      exact absurd hmany (by decide)
  · cases h.symm.trans hp

namespace Schema
variable {s : Schema} {text : String}

private theorem remains_of_plan (hnames : s.checkNames = .ok ())
    (hrules : ∀ c ∈ s.columns, ∀ r ∈ c.rules, r.Portable) {source : LocaleSource} {e : PlanError}
    (h : s.plan source = .error e) : e.Remains := by
  rw [plan, hnames] at h
  rcases mapM_cases (fun c => c.plan s.locale source) s.columns with
    ⟨e', ⟨_, ⟨c, hc, he⟩, _⟩, herror⟩ | ⟨_, columns, hcolumns⟩
  · rw [herror] at h
    cases h
    exact ColumnSpec.remains_of_plan (hrules c (List.mem_of_getElem? hc)) he
  · rw [hcolumns] at h
    cases h

private theorem portable_of_ofText (h : Schema.ofText text = .ok s) :
    s.checkNames = .ok () ∧ ∀ c ∈ s.columns, ∀ r ∈ c.rules, r.Portable := by
  rw [ofText] at h
  split at h
  · next s' hread =>
    cases hnames : s'.checkNames with
    | error e =>
      rw [hnames] at h
      cases h
    | ok u =>
      rw [hnames] at h
      cases h
      exact ⟨hnames, Json.gives_readText (fun _ => Json.gives_toSchema) text s' hread⟩
  · cases h

/-- A schema that was read from a text has names for its columns, no two the same, no custom rules
and only finite bounds. Whatever locales there are, planning does not fail for one of these reasons,
and the schema can be written. -/
theorem wellFormed_of_ofText (h : Schema.ofText text = .ok s) :
    ("" ∉ s.names ∧ s.names.Nodup) ∧
    (∀ c ∈ s.columns, ∀ r ∈ c.rules, r.custom? = none) ∧
    (∀ b ∈ s.bounds, b.isFinite = true) ∧
    (∀ source e, s.plan source = .error e → e.Remains) ∧
    ∃ written, s.toText = .ok written := by
  obtain ⟨hnames, hrules⟩ := portable_of_ofText h
  have hcustom : ∀ c ∈ s.columns, ∀ r ∈ c.rules, r.custom? = none :=
    fun c hc r hr => (hrules c hc r hr).custom?_eq
  refine ⟨s.checkNames_eq_ok_iff.mp hnames, hcustom, fun b hb => ?_,
    fun source e => remains_of_plan hnames hrules, ?_⟩
  · obtain ⟨c, hc, r, hr, hbound⟩ := mem_bounds.mp hb
    exact (hrules c hc r hr).isFinite b hbound
  · obtain ⟨j, hj⟩ := Option.isSome_iff_exists.mp ((toJson?_isSome_iff s).mpr hcustom)
    exact ⟨j.pretty, toText_eq_ok_iff.mpr ⟨j, hj, rfl⟩⟩

private def prices : String :=
  "\x7b\"columns\": [\x7b\"type\": \"number\", \"name\": \"price\", \"rules\": [[\"max\", 1e308], " ++
    "\x7b\"value\": -2.5e-400, \"rule\": \"min\"\x7d]\x7d]\x7d"

/-- Bounds at both ends of the range: one is read as a large number, the other as the zero with a sign. -/
theorem wellFormed_of_ofText_prices : ∃ s, Schema.ofText prices = .ok s ∧
    s.bounds = [⟨0x7fe1ccf385ebc8a0⟩, ⟨0x8000000000000000⟩] ∧
    (∀ b ∈ s.bounds, b.isFinite = true) ∧
    (∀ source e, s.plan source = .error e → e.Remains) ∧ ∃ written, s.toText = .ok written := by
  have hread : (Schema.ofText prices).toOption.map bounds =
      some [⟨0x7fe1ccf385ebc8a0⟩, ⟨0x8000000000000000⟩] := by decide +kernel
  cases hs : Schema.ofText prices with
  | error e =>
    rw [hs] at hread
    cases hread
  | ok s =>
    rw [hs] at hread
    obtain ⟨-, -, hfinite, hremains, hwritten⟩ := wellFormed_of_ofText hs
    exact ⟨s, rfl, Option.some.inj hread, hfinite, hremains, hwritten⟩

end Schema
end TableAudit
