import Mathlib.Algebra.BigOperators.Group.List.Lemmas
import Mathlib.Algebra.GroupWithZero.Nat
import TableAudit.Proofs.Audit.Views

/-! The tally of an audit as a histogram of its records, by rule and by column. -/
namespace TableAudit

namespace Tally

/-- The counts of the names in a list; a name that does not occur has none. -/
def Counts (counts : Std.TreeMap String Nat) (names : List String) : Prop :=
  ∀ name n, counts[name]? = some n ↔ n ≠ 0 ∧ names.count name = n

variable {counts counts' : Std.TreeMap String Nat} {names names' : List String}

private theorem counts_empty : Counts ∅ [] := fun name n => by
  simp only [List.count_nil]
  constructor
  · intro h
    simp at h
  · rintro ⟨hne, h0⟩
    exact absurd h0.symm hne

theorem Counts.getD (h : Counts counts names) (name : String) :
    counts[name]?.getD 0 = names.count name := by
  cases hc : counts[name]? with
  | none =>
    by_contra hne
    have := (h name (names.count name)).mpr ⟨fun h0 => hne h0.symm, rfl⟩
    cases hc.symm.trans this
  | some n => exact ((h name n).mp hc).2.symm

private theorem Counts.mem_iff (h : Counts counts names) (name : String) :
    name ∈ counts ↔ name ∈ names := by
  rw [Std.TreeMap.mem_iff_isSome_getElem?, Option.isSome_iff_exists, ← List.count_pos_iff]
  constructor
  · rintro ⟨n, hn⟩
    obtain ⟨hpos, rfl⟩ := (h name n).mp hn
    exact Nat.pos_of_ne_zero hpos
  · intro hpos
    exact ⟨_, (h name _).mpr ⟨Nat.ne_of_gt hpos, rfl⟩⟩

private theorem Counts.bump (h : Counts counts names) (name : String) :
    Counts (bump counts name) (names ++ [name]) := by
  intro k n
  rw [Tally.bump, Std.TreeMap.getElem?_alter, h.getD, List.count_append]
  by_cases hk : name = k
  · subst hk
    rw [if_pos Std.ReflCmp.compare_self, List.count_singleton_self, Option.some.injEq]
    omega
  · have hzero : [name].count k = 0 := by
      rw [List.count_eq_zero, List.mem_singleton]
      exact Ne.symm hk
    rw [if_neg fun heq => hk (Std.LawfulEqCmp.eq_of_compare heq), h k n, hzero, Nat.add_zero]

theorem Counts.perm (h : Counts counts names) (hp : names.Perm names') : Counts counts names' :=
  fun name n => by rw [h name n, hp.count_eq]

/-- The counts of a list are those of no other map. -/
theorem Counts.toList_eq (h : Counts counts names) (h' : Counts counts' names) :
    counts.toList = counts'.toList := by
  apply Std.TreeMap.Equiv.toList_eq
  apply Std.TreeMap.Equiv.of_forall_constGet?_eq
  intro name
  exact Option.ext fun n => (h name n).trans (h' name n).symm

private theorem Counts.sum_eq (h : Counts counts names) :
    (counts.toList.map (·.2)).sum = names.length := by
  have hcount : ∀ e ∈ counts.toList, e.2 = names.count e.1 := fun (name, n) he =>
    ((h name n).mp (Std.TreeMap.mem_toList_iff_getElem?_eq_some.mp he)).2.symm
  have hkeys : counts.keys.Perm names.dedup :=
    (List.perm_ext_iff_of_nodup Std.TreeMap.nodup_keys (List.nodup_dedup _)).mpr fun name => by
      rw [Std.TreeMap.mem_keys, h.mem_iff, List.mem_dedup]
  calc (counts.toList.map (·.2)).sum
      = (counts.keys.map names.count).sum := by
        rw [List.map_congr_left hcount, ← Std.TreeMap.map_fst_toList_eq_keys, List.map_map]
        rfl
    _ = (names.dedup.map names.count).sum := (hkeys.map _).sum_eq
    _ = names.length := List.sum_map_count_dedup_eq_length names

private theorem counts_addAll {n : Tally} {rules columns : List String} (hr : Counts n.byRule rules)
    (hc : Counts n.byColumn columns) (found : List (Visit × Finding)) :
    Counts (n.addAll found).byRule (rules ++ found.map fun x => x.1.column.ruleOf x.2) ∧
      Counts (n.addAll found).byColumn (columns ++ found.map fun x => x.1.column.name) := by
  induction found generalizing n rules columns with
  | nil => simpa [addAll] using And.intro hr hc
  | cons x xs ih =>
    have hrest := ih (n := n.add (x.1.column.ruleOf x.2) x.1.column.name)
      (hr.bump (x.1.column.ruleOf x.2)) (hc.bump x.1.column.name)
    simpa [addAll] using hrest

end Tally

def Visit.record? (t : Table) (v : Visit) (f : Finding) : Option FindingRecord :=
  (v.column.noticeOf? f).map fun n =>
    ⟨v.row, v.col, v.column.name, t.cell v.row v.col, n.kind, n.rule, n.message⟩

namespace AuditPlan
variable {p : AuditPlan} {o : Options} {t : Table}

theorem counts_audit (p : AuditPlan) (o : Options) (t : Table) :
    Tally.Counts (p.audit o t).tally.byRule
        ((trace o.matching [] (p.visits o t)).map fun x => x.1.column.ruleOf x.2) ∧
      Tally.Counts (p.audit o t).tally.byColumn
        ((trace o.matching [] (p.visits o t)).map fun x => x.1.column.name) := by
  rw [audit, (p.audit_follows o t).tally]
  exact Tally.counts_addAll (n := .empty) Tally.counts_empty Tally.counts_empty _

private theorem Sound.cells_eq (hs : p.Sound) :
    (p.audit o t).marks.bits.cells =
      (trace o.matching [] (p.visits o t)).map fun x => (x.1.row, x.1.col) := by
  have hagree := hs.marks_agree o t
  refine (CellBits.pairwise_cells _).eq_of_mem_iff (List.pairwise_map.mpr pairwise_trace) ?_
  rintro ⟨row, col⟩
  rw [CellBits.mem_cells, hagree.contains_iff, List.mem_map]
  constructor
  · intro hne
    obtain ⟨v, f, hmem, rfl, rfl⟩ := hs.exists_mem_trace hne
    exact ⟨(v, f), hmem, rfl⟩
  · rintro ⟨⟨v, f⟩, hmem, hcell⟩
    obtain ⟨rfl, rfl⟩ := Prod.mk.inj hcell
    have hcode : (p.audit o t).marks.codes.get v.row v.col = _ := hs.code_of_mem_trace hmem
    rw [hcode]
    exact (hs.hasFinding_of_mem_trace hmem).toByte_ne_zero

/-- The records are those of the findings on the way. -/
theorem Sound.records_eq (hs : p.Sound) (o : Options) (t : Table) :
    (p.audit o t).records =
      (trace o.matching [] (p.visits o t)).filterMap fun x => x.1.record? t x.2 := by
  rw [Audit.records_eq, hs.cells_eq, List.filterMap_map]
  apply List.filterMap_congr
  rintro ⟨v, f⟩ hmem
  obtain ⟨n, hn, _, hr⟩ := hs.record?_of_mem_trace hmem
  rw [Visit.record?, hn]
  exact hr

private theorem Sound.map_records_eq (hs : p.Sound) :
    ((p.audit o t).records.map fun r => (r.rule, r.field)) =
      (trace o.matching [] (p.visits o t)).map fun x =>
        (x.1.column.ruleOf x.2, x.1.column.name) := by
  have hall : ∀ x ∈ trace o.matching [] (p.visits o t),
      ((p.audit o t).record? x.1.row x.1.col).map (fun r => (r.rule, r.field)) =
        some (x.1.column.ruleOf x.2, x.1.column.name) := by
    intro (v, f) hmem
    obtain ⟨n, hn, _, hr⟩ := hs.record?_of_mem_trace hmem
    rw [hr, Option.map_some, ColumnPlan.ruleOf, hn]
  exact Audit.map_records_eq hs.cells_eq hall

theorem Sound.length_trace (hs : p.Sound) :
    (trace o.matching [] (p.visits o t)).length = (p.audit o t).count := by
  have hlength := congrArg List.length (hs.map_records_eq (o := o) (t := t))
  rw [List.length_map, List.length_map] at hlength
  rw [← hlength, (hs.shown o t).length_records]

private theorem Sound.counts_records (hs : p.Sound) :
    Tally.Counts (p.audit o t).tally.byRule ((p.audit o t).records.map (·.rule)) ∧
      Tally.Counts (p.audit o t).tally.byColumn ((p.audit o t).records.map (·.field)) := by
  have hnames := hs.map_records_eq (o := o) (t := t)
  have hrules := congrArg (List.map Prod.fst) hnames
  have hfields := congrArg (List.map Prod.snd) hnames
  simp only [List.map_map, Function.comp_def] at hrules hfields
  rw [hrules, hfields]
  exact p.counts_audit o t

end AuditPlan

private theorem Tally.Counts.getElem?_eq_some_iff {α : Type} {counts : Std.TreeMap String Nat}
    {records : List α} {f : α → String} (h : Tally.Counts counts (records.map f)) (name : String)
    (n : Nat) : counts[name]? = some n ↔ n ≠ 0 ∧ records.countP (fun r => f r = name) = n := by
  rw [h name n, List.count_eq_countP, List.countP_map]
  simp [Function.comp_def, beq_eq_decide]

private theorem Demand.name_ne_unknown (dm : Demand) : dm.name ≠ "unknown" := by
  cases dm with
  | rule r => cases r <;> simp [name, Rule.name]
  | _ => simp [name]

private theorem ColumnSpec.rule_ne_unknown {c : ColumnSpec} {schemaLocale : Option String}
    {source : LocaleSource} {q : ColumnPlan} (h : c.plan schemaLocale source = .ok q) {k : UInt8}
    {n : Notice} (hk : q.notice? k = some n) : n.rule ≠ "unknown" := by
  obtain ⟨d, hn, _, hnotices⟩ := plan_numbered h
  rw [ColumnPlan.notice?, hnotices] at hk
  obtain ⟨dm, hcode⟩ := hn.hasCode_of_notice k n hk
  obtain ⟨n', hk', hrule, _⟩ := hn.notice_of_hasCode dm k hcode
  cases hk.symm.trans hk'
  rw [hrule]
  exact dm.name_ne_unknown

private theorem ColumnPlan.HasFinding.ruleOf_ne_unknown {q : ColumnPlan} {f : Finding}
    (h : q.HasFinding f) (hq : ∀ {k n}, q.notice? k = some n → n.rule ≠ "unknown") :
    q.ruleOf f ≠ "unknown" := by
  obtain ⟨n, hn, _⟩ := h.exists_notice
  rw [ruleOf, hn]
  cases f with
  | check k => exact hq hn
  | custom i =>
    obtain ⟨_, _, rfl⟩ := Option.map_eq_some_iff.mp hn
    simp
  | repeated =>
    cases hn
    simp

/-- The counts of an audit. A rule and a column have the number of their records if there is one, no
other name has a count, and both counts add up to the number of findings. -/
theorem Schema.tally_of_audit {s : Schema} {source : LocaleSource} {p : AuditPlan}
    (h : s.plan source = .ok p) (o : Options) (t : Table) :
    let a := p.audit o t
    (∀ name n, a.tally.byRule[name]? = some n ↔
      n ≠ 0 ∧ a.records.countP (fun r => r.rule = name) = n) ∧
    (∀ name n, a.tally.byColumn[name]? = some n ↔
      n ≠ 0 ∧ a.records.countP (fun r => r.field = name) = n) ∧
    "unknown" ∉ a.tally.byRule ∧ (∀ name ∈ a.tally.byColumn, name ∈ p.names) ∧
    (a.tally.byRule.toList.map (·.2)).sum = a.count ∧
    (a.tally.byColumn.toList.map (·.2)).sum = a.count ∧ a.report.tally = a.tally := by
  have hs := plan_sound h
  obtain ⟨hrules, hcolumns⟩ := hs.counts_records (o := o) (t := t)
  have hlength := (hs.shown o t).length_records
  refine ⟨hrules.getElem?_eq_some_iff, hcolumns.getElem?_eq_some_iff, ?unknown, ?names, ?rules,
    ?columns, rfl⟩
  case unknown =>
    rw [(p.counts_audit o t).1.mem_iff, List.mem_map]
    rintro ⟨⟨v, f⟩, hmem, hrule⟩
    have hcol := List.mem_of_getElem? (AuditPlan.column_of_mem_trace hmem)
    obtain ⟨c, _, hc⟩ := exists_spec_of_mem h hcol
    exact (hs.hasFinding_of_mem_trace hmem).ruleOf_ne_unknown (ColumnSpec.rule_ne_unknown hc) hrule
  case names =>
    intro name hname
    rw [(p.counts_audit o t).2.mem_iff, List.mem_map] at hname
    obtain ⟨⟨v, f⟩, hmem, rfl⟩ := hname
    exact List.mem_map_of_mem (List.mem_of_getElem? (AuditPlan.column_of_mem_trace hmem))
  case rules => rw [hrules.sum_eq, List.length_map, hlength]
  case columns => rw [hcolumns.sum_eq, List.length_map, hlength]

private def nameSchema : Schema := ⟨[⟨"name", .string, [.required], none, []⟩], none⟩

private def nameTable : Table := #[#[""], #["x"], #[]]

/-- Two of three names are missing. -/
theorem Schema.tally_of_audit_names : ∃ p, nameSchema.plan ⟨fun _ _ _ => none⟩ = .ok p ∧
    (p.audit .standard nameTable).tally.byRule["required"]? = some 2 := by
  obtain ⟨p, hp, hcount⟩ : ∃ p, nameSchema.plan ⟨fun _ _ _ => none⟩ = .ok p ∧
      (p.audit .standard nameTable).records.countP (fun r => r.rule = "required") = 2 :=
    ⟨_, rfl, rfl⟩
  obtain ⟨hrules, _⟩ := Schema.tally_of_audit hp .standard nameTable
  exact ⟨p, hp, (hrules "required" 2).mpr ⟨by decide, hcount⟩⟩

end TableAudit
