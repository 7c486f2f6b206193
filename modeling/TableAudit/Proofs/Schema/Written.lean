import TableAudit.Proofs.Json.Nodes
import TableAudit.Proofs.Schema.Names
import TableAudit.Schema.Written
import Mathlib.Data.List.Forall2

/-! Written schemas are read back; only bounds can come back changed. -/
namespace TableAudit

open Json (Node Members Fault needed once)

def Binary64.reread? (b : Binary64) : Option Binary64 :=
  (Json.Number.float b).reread?.map Json.Number.toBinary64

/-- The JSON reader gets the number back from the text that the JSON writer makes of it. -/
def Binary64.ReadsBack (b : Binary64) : Prop :=
  ∃ j, Json.ofText? (Json.float b).compact = .ok j ∧ j.asNumber? = some b

def Rule.reread? : Rule → Option Rule
  | .min b => b.reread?.map .min
  | .max b => b.reread?.map .max
  | r => some r

def ColumnSpec.reread? (c : ColumnSpec) : Option ColumnSpec :=
  (c.rules.mapM Rule.reread?).map fun rules => { c with rules := rules }

def Schema.reread? (s : Schema) : Option Schema :=
  (s.columns.mapM ColumnSpec.reread?).map fun columns => { s with columns := columns }

def Schema.bounds (s : Schema) : List Binary64 :=
  s.columns.flatMap fun c => c.rules.filterMap Rule.bound?

section Lists

variable {α β γ : Type} {f : α → Option β} {as : List α} {bs : List β}

private theorem mapM_eq_some :
    as.mapM f = some bs ↔ List.Forall₂ (fun a b => f a = some b) as bs := by
  induction as generalizing bs with
  | nil => simp [eq_comm]
  | cons a as ih =>
    simp only [List.mapM_cons, Option.bind_eq_bind, Option.bind_eq_some_iff,
      List.forall₂_cons_left_iff, ih]
    constructor
    · rintro ⟨b, hb, bs', hbs, h⟩
      cases h
      exact ⟨b, bs', hb, hbs, rfl⟩
    · rintro ⟨b, bs', hb, hbs, rfl⟩
      exact ⟨b, hb, bs', hbs, rfl⟩

private theorem mapM_isSome_iff : (as.mapM f).isSome = true ↔ ∀ a ∈ as, (f a).isSome = true := by
  induction as with
  | nil => simp
  | cons a as ih =>
    rw [List.mapM_cons, List.forall_mem_cons, ← ih]
    cases f a <;> cases as.mapM f <;> simp

private theorem isSome_bind_pure (x : Option α) (g : α → β) :
    (do let a ← x; return g a : Option β).isSome = x.isSome := by
  cases x <;> rfl

private theorem mapM_needed {read : β → Except Fault γ} {reread : α → Option γ}
    (h : ∀ a b, f a = some b → read b = needed (reread a)) (hbs : as.mapM f = some bs) :
    bs.mapM read = needed (as.mapM reread) := by
  rw [mapM_eq_some] at hbs
  induction hbs with
  | nil => rfl
  | @cons a b as bs hab _ ih =>
    rw [List.mapM_cons, List.mapM_cons, h a b hab, ih]
    cases reread a <;> cases as.mapM reread <;> rfl

end Lists

private theorem fold_optionalMember {σ : Type} {take : String → Node → σ → Except Fault σ}
    {name : String} {s : σ} (s' : σ) {value : Option Json}
    (h : match value with | none => s = s' | some x => take name x.node s = .ok s')
    (ms : List (String × Json)) :
    (Json.memberNodes (optionalMember name value ++ ms)).fold take s =
      (Json.memberNodes ms).fold take s' := by
  cases value with
  | none => rw [← show s = s' from h]; rfl
  | some x => exact Json.fold_member s' h _

private theorem Rule.toJson?_isSome_iff (r : Rule) :
    r.toJson?.isSome = true ↔ r.custom? = none := by
  cases r <;> simp [toJson?, custom?]

private theorem asStrings?_strings (ss : List String) : (Json.strings ss).asStrings? = some ss := by
  rw [Json.strings, Json.asStrings?]
  induction ss with
  | nil => rfl
  | cons s ss ih =>
    rw [List.map_cons, List.mapM_cons, ih]
    rfl

private theorem toRule_tagged {name field : String} {kind : WrittenRule}
    (hname : WrittenRule.ofName? name = some kind) (hfield : field ≠ "rule") (x : Json) :
    (Json.object [("rule", .string name), (field, x)]).node.toRule Json.ruleRoom =
      (x.node.toJson (Json.ruleRoom - 1)).bind fun y =>
        needed (kind.complete? (.byName [(field, y)])) := by
  have hkind : (Node.string (some name)).toWrittenRule = .ok kind := by
    show needed (WrittenRule.ofName? name) = _
    rw [hname]
    rfl
  have htag : Json.RuleDraft.take (Json.ruleRoom - 1) "rule" (.string (some name)) ⟨none, []⟩ =
      .ok ⟨some kind, []⟩ := by
    rw [Json.RuleDraft.take, if_pos rfl, hkind]
    rfl
  rw [Json.node, Json.memberNodes, Json.memberNodes, Json.memberNodes, Json.node, Node.toRule,
    Json.fold_member _ htag, Members.fold, Json.RuleDraft.take, if_neg hfield]
  cases x.node.toJson (Json.ruleRoom - 1) <;> rfl

private theorem toRule_bound {name : String} {make : Binary64 → Rule}
    (hname : WrittenRule.ofName? name = some (.bound make)) (b : Binary64) :
    (Json.object [("rule", .string name), ("value", .float b)]).node.toRule Json.ruleRoom =
      needed (b.reread?.map make) := by
  rw [toRule_tagged hname (by decide), Json.float, Json.node]
  cases hb : b.isFinite with
  | false =>
    have hnone : b.reread? = none := by
      rw [Binary64.reread?, ← Option.not_isSome_iff_eq_none, Option.isSome_map,
        Json.Number.reread?_float_isSome, hb]
      decide
    rw [Json.Number.node_of_not_isFinite hb, hnone]
    rfl
  | true =>
    obtain ⟨n, hn⟩ := Option.isSome_iff_exists.mp ((Json.Number.reread?_float_isSome b).trans hb)
    rw [Json.Number.node_of_reread? hn, Binary64.reread?, hn]
    rfl

private theorem toRule_length {name : String} {make : UInt64 → Rule}
    (hname : WrittenRule.ofName? name = some (.length make)) (n : UInt64) :
    (Json.object [("rule", .string name), ("value", .nat n.toNat)]).node.toRule Json.ruleRoom =
      .ok (make n) := by
  rw [toRule_tagged hname (by decide), Json.nat, Json.node,
    Json.Number.node_of_reread? (Json.Number.reread?_whole n.toNat_lt)]
  have hcount : (Json.number (.whole n.toNat)).asCount? = some n := by
    simp [Json.asCount?]
  show needed (((Json.number (.whole n.toNat)).asCount?).map make) = _
  rw [hcount]
  rfl

private theorem Rule.toRule_node {r : Rule} {j : Json} (h : r.toJson? = some j) :
    j.node.toRule Json.ruleRoom = needed r.reread? := by
  cases r with
  | required | email | unique | pattern =>
    cases h
    rfl
  | min b =>
    cases h
    exact toRule_bound rfl b
  | max b =>
    cases h
    exact toRule_bound rfl b
  | minLength n =>
    cases h
    exact toRule_length rfl n
  | maxLength n =>
    cases h
    exact toRule_length rfl n
  | oneOf values =>
    cases h
    rw [toRule_tagged rfl (by decide), Json.toJson_strings (by decide)]
    show needed ((Json.strings values).asStrings?.map Rule.oneOf) = _
    rw [asStrings?_strings]
    rfl
  | custom => cases h

private theorem ColumnSpec.toColumn_node {c : ColumnSpec} {j : Json} (h : c.toJson? = some j) :
    j.node.toColumn = needed c.reread? := by
  obtain ⟨js, hjs, hj⟩ := Option.bind_eq_some_iff.mp h
  cases hj
  have htype : (Node.string (some c.cellType.name)).toChoice CellType.ofName? = .ok c.cellType := by
    rw [Node.toChoice, CellType.ofName?_name]
    rfl
  have hrules := mapM_needed (fun _ _ => Rule.toRule_node) hjs
  rw [← Json.toList_itemNodes] at hrules
  rw [ColumnSpec.reread?, List.append_assoc, ← List.append_nil (optionalMember "aliases" _), Json.node,
    List.cons_append, List.cons_append, List.cons_append, List.nil_append, Json.memberNodes,
    Json.memberNodes, Json.memberNodes, Node.toColumn, Node.toFields,
    Json.fold_member ⟨some c.name, none, none, none, none⟩ rfl,
    Json.fold_member ⟨some c.name, some c.cellType, none, none, none⟩
      (by rw [if_pos (by decide), Json.ColumnDraft.take, Json.node, htype]; rfl)]
  cases hr : c.rules.mapM Rule.reread? with
  | none =>
    rw [Members.fold, if_pos (by decide), Json.ColumnDraft.take, Json.node, Node.toList, hrules, hr]
    rfl
  | some rules =>
    rw [Json.fold_member ⟨some c.name, some c.cellType, some rules, none, none⟩
        (by rw [if_pos (by decide), Json.ColumnDraft.take, Json.node, Node.toList, hrules, hr]; rfl),
      fold_optionalMember ⟨some c.name, some c.cellType, some rules, c.locale.map some, none⟩,
      fold_optionalMember ⟨some c.name, some c.cellType, some rules, c.locale.map some,
        if c.aliases.isEmpty then none else some c.aliases⟩]
    · cases c.locale <;> cases c.aliases <;> rfl
    · cases ha : c.aliases with
      | nil => rfl
      | cons a as =>
        show (once none ((Json.strings (a :: as)).node.toList Node.toText)).bind _ = _
        rw [Json.toList_strings]
        rfl
    · cases c.locale <;> rfl

private theorem Schema.toSchema_node {s : Schema} {j : Json} (h : s.toJson? = some j) :
    j.node.toSchema = needed s.reread? := by
  obtain ⟨js, hjs, hj⟩ := Option.bind_eq_some_iff.mp h
  cases hj
  have hcolumns := mapM_needed (fun _ _ => ColumnSpec.toColumn_node) hjs
  rw [← Json.toList_itemNodes] at hcolumns
  rw [Schema.reread?, ← List.append_nil (optionalMember "locale" _), Json.node, Json.memberNodes,
    Node.toSchema, Node.toFields]
  cases hc : s.columns.mapM ColumnSpec.reread? with
  | none =>
    rw [Members.fold, if_pos (by decide), Json.SchemaDraft.take, Json.node, Node.toList, hcolumns, hc]
    rfl
  | some columns =>
    rw [Json.fold_member ⟨some columns, none⟩
        (by rw [if_pos (by decide), Json.SchemaDraft.take, Json.node, Node.toList, hcolumns, hc]; rfl),
      fold_optionalMember ⟨some columns, s.locale.map some⟩]
    · cases s.locale <;> rfl
    · cases s.locale <;> rfl

private theorem Binary64.reread?_isSome (b : Binary64) : b.reread?.isSome = b.isFinite := by
  rw [reread?, Option.isSome_map, Json.Number.reread?_float_isSome]

private theorem Binary64.readsBack_iff (b : Binary64) : b.ReadsBack ↔ b.reread? = some b := by
  have hfinite := Json.Number.reread?_float_isSome b
  unfold ReadsBack Json.ofText? Json.compact reread?
  rw [Json.readText_write Json.tight_blank, Json.float, Json.node]
  cases hn : (Json.Number.float b).reread? with
  | none =>
    rw [hn] at hfinite
    rw [Json.Number.node_of_not_isFinite hfinite.symm]
    simp [Node.toJson, Json.asNumber?]
  | some n =>
    rw [Json.Number.node_of_reread? hn]
    simp [Node.toJson, Json.asNumber?]

theorem Schema.mem_bounds {s : Schema} {b : Binary64} :
    b ∈ s.bounds ↔ ∃ c ∈ s.columns, ∃ r ∈ c.rules, r.bound? = some b := by
  simp [bounds]

private theorem Rule.reread?_isSome_iff (r : Rule) :
    r.reread?.isSome = true ↔ ∀ b, r.bound? = some b → b.isFinite = true := by
  cases r <;> simp [reread?, bound?, Binary64.reread?_isSome]

private theorem Rule.reread?_eq_self {r : Rule} (h : ∀ b, r.bound? = some b → b.reread? = some b) :
    r.reread? = some r := by
  cases r <;> simp_all [reread?, bound?]

private theorem Schema.reread?_isSome_iff (s : Schema) :
    s.reread?.isSome = true ↔ ∀ b ∈ s.bounds, b.isFinite = true := by
  simp only [reread?, ColumnSpec.reread?, Option.isSome_map, mapM_isSome_iff,
    Rule.reread?_isSome_iff, mem_bounds]
  exact ⟨fun h b ⟨c, hc, r, hr, hb⟩ => h c hc r hr b hb, fun h c hc r hr b hb => h b ⟨c, hc, r, hr, hb⟩⟩

private theorem ColumnSpec.reread?_eq_self {c : ColumnSpec}
    (h : ∀ r ∈ c.rules, ∀ b, r.bound? = some b → b.reread? = some b) : c.reread? = some c := by
  have hrules : c.rules.mapM Rule.reread? = some c.rules :=
    mapM_eq_some.mpr (List.forall₂_same.mpr fun r hr => Rule.reread?_eq_self (h r hr))
  rw [reread?, hrules]
  rfl

private theorem Schema.reread?_eq_self {s : Schema} (h : ∀ b ∈ s.bounds, b.ReadsBack) :
    s.reread? = some s := by
  have hcolumns : s.columns.mapM ColumnSpec.reread? = some s.columns :=
    mapM_eq_some.mpr (List.forall₂_same.mpr fun c hc => ColumnSpec.reread?_eq_self fun r hr b hb =>
      b.readsBack_iff.mp (h b (mem_bounds.mpr ⟨c, hc, r, hr, hb⟩)))
  rw [reread?, hcolumns]
  rfl

private theorem ColumnSpec.name_of_reread? {c c' : ColumnSpec} (h : c.reread? = some c') :
    c'.name = c.name := by
  obtain ⟨rules, -, rfl⟩ := Option.map_eq_some_iff.mp h
  rfl

private theorem Schema.names_of_reread? {s s' : Schema} (h : s.reread? = some s') :
    s'.names = s.names := by
  obtain ⟨columns, hcolumns, rfl⟩ := Option.map_eq_some_iff.mp h
  rw [mapM_eq_some] at hcolumns
  unfold names
  clear h
  generalize s.columns = cs at hcolumns ⊢
  induction hcolumns with
  | nil => rfl
  | cons hc _ ih => rw [List.map_cons, List.map_cons, ColumnSpec.name_of_reread? hc, ih]

namespace Schema

theorem toText_eq_ok_iff {s : Schema} {text : String} :
    s.toText = .ok text ↔ ∃ j, s.toJson? = some j ∧ j.pretty = text := by
  unfold toText
  cases s.toJson? <;> simp

theorem toJson?_isSome_iff (s : Schema) : s.toJson?.isSome = true ↔
    ∀ c ∈ s.columns, ∀ r ∈ c.rules, r.custom? = none := by
  have hcolumn (c : ColumnSpec) : c.toJson?.isSome = true ↔ ∀ r ∈ c.rules, r.custom? = none := by
    rw [ColumnSpec.toJson?, isSome_bind_pure, mapM_isSome_iff]
    simp only [Rule.toJson?_isSome_iff]
  rw [toJson?, isSome_bind_pure, mapM_isSome_iff]
  simp only [hcolumn]

private theorem ofText_pretty {s : Schema} {j : Json} (h : s.toJson? = some j) :
    Schema.ofText j.pretty =
      match s.reread? with
      | some s' => s'.checkNames.map fun _ => s'
      | none => .error (.unreadable .wrongShape) := by
  rw [Schema.ofText, Json.pretty, Json.readText_write Json.spread_blank, toSchema_node h]
  cases s.reread? <;> rfl

/-- A schema is written if and only if it has no custom rules. What is written is read if and only if
the columns have names, no two the same, and the bounds are finite; and it is read as the schema
itself if its bounds are numbers that JSON hands on unchanged. -/
theorem ofText_toText (s : Schema) :
    ((∃ text, s.toText = .ok text) ↔ ∀ c ∈ s.columns, ∀ r ∈ c.rules, r.custom? = none) ∧
    ∀ text, s.toText = .ok text →
      ((∃ s', Schema.ofText text = .ok s') ↔
        "" ∉ s.names ∧ s.names.Nodup ∧ ∀ b ∈ s.bounds, b.isFinite = true) ∧
      ("" ∉ s.names → s.names.Nodup → (∀ b ∈ s.bounds, b.ReadsBack) →
        Schema.ofText text = .ok s) := by
  refine ⟨?_, fun text htext => ?_⟩
  · rw [← toJson?_isSome_iff, Option.isSome_iff_exists]
    simp [toText_eq_ok_iff]
  obtain ⟨j, hj, rfl⟩ := toText_eq_ok_iff.mp htext
  rw [ofText_pretty hj]
  constructor
  · rw [← reread?_isSome_iff]
    cases hr : s.reread? with
    | none => simp
    | some s' =>
      have hnames := s'.checkNames_eq_ok_iff
      rw [names_of_reread? hr] at hnames
      dsimp only
      rw [Option.isSome_some, ← and_assoc, ← hnames]
      cases s'.checkNames <;> simp [Except.map]
  · intro hne hnodup hback
    rw [reread?_eq_self hback]
    dsimp only
    rw [s.checkNames_eq_ok_iff.mpr ⟨hne, hnodup⟩]
    rfl

private def readings : Schema :=
  ⟨[⟨"temp \"°C\"\n", .number, [.required, .min ⟨0xc03e000000000000⟩, .max ⟨0x3fb999999999999a⟩],
      some "", ["\\"]⟩,
    ⟨"kind", .enum, [.oneOf ["\x00", "𝒳"], .maxLength 18446744073709551615], none, []⟩], some "de"⟩

private def endlessReadings : Schema :=
  ⟨[⟨"temp", .number, [.max (Binary64.infinity false)], none, []⟩], none⟩

/-- Bounds of -30 and of the number nearest to 0.1 come back; an infinite one is not read at all. -/
theorem ofText_toText_readings :
    (∃ text, readings.toText = .ok text ∧ Schema.ofText text = .ok readings) ∧
    ∃ text, endlessReadings.toText = .ok text ∧ ∀ s, Schema.ofText text ≠ .ok s := by
  constructor
  · obtain ⟨hwritten, hread⟩ := ofText_toText readings
    obtain ⟨text, htext⟩ := hwritten.mpr (by simp [readings, Rule.custom?])
    have hback : ∀ b ∈ readings.bounds, b.ReadsBack := by
      simp only [Binary64.readsBack_iff]
      decide +kernel
    exact ⟨text, htext, (hread text htext).2 (by decide) (by decide) hback⟩
  · obtain ⟨hwritten, hread⟩ := ofText_toText endlessReadings
    obtain ⟨text, htext⟩ := hwritten.mpr (by simp [endlessReadings, Rule.custom?])
    refine ⟨text, htext, fun s hs => ?_⟩
    obtain ⟨_, _, hfinite⟩ := (hread text htext).1.mp ⟨s, hs⟩
    exact absurd (hfinite (Binary64.infinity false) (by decide)) (by decide)

end Schema
end TableAudit
