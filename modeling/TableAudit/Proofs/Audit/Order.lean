import TableAudit.Proofs.Audit.Counts

/-! The totals of an audit under permutations of the rows. -/
namespace TableAudit

def SameKeys (m : Matching) (earlier earlier' : List Visit) : Prop :=
  ∀ k, (∃ w ∈ earlier, w.IsCompared ∧ w.key m = k) ↔ ∃ w ∈ earlier', w.IsCompared ∧ w.key m = k

section SameKeys
variable {m : Matching} {earlier earlier' : List Visit}

private theorem SameKeys.of_perm (h : earlier.Perm earlier') :
    SameKeys m earlier earlier' := fun k => by
  simp only [h.mem_iff]

private theorem SameKeys.append (h : SameKeys m earlier earlier') (vs : List Visit) :
    SameKeys m (earlier ++ vs) (earlier' ++ vs) := fun k => by
  simp only [List.mem_append, or_and_right, exists_or, h k]

theorem SameKeys.finding?_eq (h : SameKeys m earlier earlier') (v : Visit) :
    v.finding? m earlier = v.finding? m earlier' := by
  unfold Visit.finding?
  simp only [h (v.key m)]

private theorem SameKeys.trace_eq (h : SameKeys m earlier earlier') (vs : List Visit) :
    trace m earlier vs = trace m earlier' vs := by
  induction vs generalizing earlier earlier' with
  | nil => rfl
  | cons v vs ih => rw [trace, trace, h.finding?_eq v, ih (h.append [v])]

end SameKeys

namespace Visit
variable {m : Matching} {earlier : List Visit} {v w : Visit}

theorem finding?_of_isCompared (hv : v.IsCompared) :
    v.finding? m earlier =
      if ∃ u ∈ earlier, u.IsCompared ∧ u.key m = v.key m then some .repeated else none := by
  simp only [finding?, hv.2.2, hv, true_and]

private theorem finding?_snoc (h : ¬ (v.IsCompared ∧ w.IsCompared ∧ w.key m = v.key m)) :
    v.finding? m (earlier ++ [w]) = v.finding? m earlier := by
  unfold finding?
  have hiff : (v.IsCompared ∧ ∃ u ∈ earlier ++ [w], u.IsCompared ∧ u.key m = v.key m) ↔
      v.IsCompared ∧ ∃ u ∈ earlier, u.IsCompared ∧ u.key m = v.key m := by
    simp only [List.mem_append, List.mem_singleton, or_and_right, exists_or, exists_eq_left,
      and_or_left, or_iff_left h]
  simp only [hiff]

end Visit

/-- The rule and the column under which a finding is counted. -/
def label (x : Visit × Finding) : String × String := (x.1.column.ruleOf x.2, x.1.column.name)

private theorem labels_swap (m : Matching) (earlier : List Visit) {v w : Visit}
    (hcol : v.col = w.col → v.column = w.column) (vs : List Visit) :
    ((trace m earlier (w :: v :: vs)).map label).Perm
      ((trace m earlier (v :: w :: vs)).map label) := by
  have hkeys : SameKeys m (earlier ++ [w] ++ [v]) (earlier ++ [v] ++ [w]) := .of_perm (by
    rw [List.append_assoc, List.append_assoc]
    exact (List.Perm.swap v w []).append_left earlier)
  simp only [trace, hkeys.trace_eq vs, ← List.append_assoc, List.map_append]
  refine List.Perm.append_right _ ?_
  -- of two compared cells with one key the second is the repetition, whichever that is
  by_cases h : v.IsCompared ∧ w.IsCompared ∧ w.key m = v.key m
  · obtain ⟨hv, hw, hkey⟩ := h
    have hcolumn : v.column = w.column := hcol (congrArg Prod.fst hkey).symm
    have hfirst : v.finding? m earlier = w.finding? m earlier := by
      rw [Visit.finding?_of_isCompared hv, Visit.finding?_of_isCompared hw, hkey]
    have hsecond : v.finding? m (earlier ++ [w]) = some .repeated :=
      Visit.finding?_of_repeats hv ⟨w, by simp, hw, hkey⟩
    have hsecond' : w.finding? m (earlier ++ [v]) = some .repeated :=
      Visit.finding?_of_repeats hw ⟨v, by simp, hv, hkey.symm⟩
    rw [hsecond, hsecond', hfirst]
    cases w.finding? m earlier <;> simp [label, hcolumn]
  · rw [Visit.finding?_snoc h, Visit.finding?_snoc fun hwv => h ⟨hwv.2.1, hwv.1, hwv.2.2.symm⟩]
    exact List.perm_append_comm

private theorem labels_perm {m : Matching} {vs ws : List Visit} (hp : vs.Perm ws)
    (hcols : ∀ v ∈ vs, ∀ w ∈ vs, v.col = w.col → v.column = w.column) (earlier : List Visit) :
    ((trace m earlier vs).map label).Perm ((trace m earlier ws).map label) := by
  induction hp generalizing earlier with
  | nil => exact .nil
  | cons v _ ih =>
    simp only [trace, List.map_append]
    refine (ih (fun a ha b hb => ?_) _).append_left _
    exact hcols a (List.mem_cons_of_mem _ ha) b (List.mem_cons_of_mem _ hb)
  | swap v w vs => exact labels_swap m earlier (hcols v (by simp) w (by simp)) vs
  | trans hvs _ ih ih' =>
    exact (ih hcols earlier).trans
      (ih' (fun a ha b hb => hcols a (hvs.mem_iff.mpr ha) b (hvs.mem_iff.mpr hb)) earlier)

def Visit.atTop (v : Visit) : Visit := { v with row := 0 }

private theorem trace_map_atTop (m : Matching) (earlier vs : List Visit) :
    trace m (earlier.map Visit.atTop) (vs.map Visit.atTop) =
      (trace m earlier vs).map fun x => (x.1.atTop, x.2) := by
  have hfinding (earlier : List Visit) (v : Visit) :
      v.atTop.finding? m (earlier.map Visit.atTop) = v.finding? m earlier := by
    unfold Visit.finding?
    simp only [List.mem_map, exists_exists_and_eq_and]
    rfl
  induction vs generalizing earlier with
  | nil => rfl
  | cons v vs ih =>
    have hrest := ih (earlier ++ [v])
    rw [List.map_append, List.map_singleton] at hrest
    rw [List.map_cons, trace, trace, hfinding, hrest, List.map_append]
    cases v.finding? m earlier <;> rfl

namespace AuditPlan
variable {p : AuditPlan} {o : Options} {t t' : Table}

private theorem map_atTop_visits (p : AuditPlan) (o : Options) (t : Table) :
    (p.visits o t).map Visit.atTop = t.toList.flatMap fun cells =>
      p.columns.zipIdx.map fun (column, col) => ⟨0, col, column, o.valueOf (cells.getD col "")⟩ := by
  conv_rhs => rw [← List.zipIdx_map_fst 0 t.toList]
  rw [visits, List.map_flatMap, List.flatMap_map]
  simp only [List.map_map]
  rfl

private theorem labels_audit_perm (ht : t.toList.Perm t'.toList) :
    ((trace o.matching [] (p.visits o t)).map label).Perm
      ((trace o.matching [] (p.visits o t')).map label) := by
  have hlabels (t : Table) : (trace o.matching [] (p.visits o t)).map label =
      (trace o.matching [] ((p.visits o t).map Visit.atTop)).map label := by
    rw [show ([] : List Visit) = [].map Visit.atTop from rfl, trace_map_atTop, List.map_map]
    rfl
  have hvisits : ((p.visits o t).map Visit.atTop).Perm ((p.visits o t').map Visit.atTop) := by
    rw [map_atTop_visits, map_atTop_visits]
    exact ht.flatMap_right _
  rw [hlabels t, hlabels t']
  refine labels_perm hvisits (fun v hv w hw hcol => ?_) []
  obtain ⟨v', hv', rfl⟩ := List.mem_map.mp hv
  obtain ⟨w', hw', rfl⟩ := List.mem_map.mp hw
  have hc := (mem_visits.mp hv').2.1
  rw [show v'.col = w'.col from hcol, (mem_visits.mp hw').2.1] at hc
  exact (Option.some.inj hc).symm

end AuditPlan

private theorem ColumnPlan.finding?_ne_repeated (c : ColumnPlan) (value : String) :
    c.finding? value ≠ some .repeated := by
  unfold finding?
  split
  · simp
  · split <;> simp

private theorem Visit.finding?_eq_repeated_iff {m : Matching} {earlier : List Visit} {v : Visit} :
    v.finding? m earlier = some .repeated ↔
      v.IsCompared ∧ ∃ w ∈ earlier, w.IsCompared ∧ w.key m = v.key m := by
  unfold finding?
  split
  · rename_i f hf
    have hne := hf ▸ v.column.finding?_ne_repeated v.value
    exact ⟨fun h => absurd h hne, fun h => nomatch hf.symm.trans h.1.2.2⟩
  · simp

private theorem ColumnPlan.HasFinding.toByte_eq_repeated_iff {c : ColumnPlan} {f : Finding}
    (h : c.HasFinding f) : f.toByte = 251 ↔ f = .repeated := by
  rw [← UInt8.toNat_inj, h.toNat_toByte]
  cases f with
  | check k =>
    have hk := h.2.1
    simp
    omega
  | custom i =>
    have hi := h.2
    simp
    omega
  | repeated => simp

instance (c : ColumnPlan) : DecidablePred c.Accepts := fun value =>
  inferInstanceAs (Decidable (value ≠ "" ∧ c.validate value = 0 ∧ ∀ r ∈ c.customRules, _))

namespace AuditPlan
variable {p : AuditPlan} {o : Options} {t : Table}

/-- A repetition is an accepted value with one of the same key above it. -/
theorem Sound.code_eq_repeated_iff (hs : p.Sound) {row col : Nat} (hrow : row < t.size)
    {c : ColumnPlan} (hcol : p.columns[col]? = some c) (hu : c.isUnique = true) :
    (p.audit o t).code row col = 251 ↔ c.Accepts (o.valueOf (t.cell row col)) ∧
      ∃ above < row, c.Accepts (o.valueOf (t.cell above col)) ∧
        o.matching.key (o.valueOf (t.cell above col)) =
          o.matching.key (o.valueOf (t.cell row col)) := by
  have hc : c.Sound := hs c (List.mem_of_getElem? hcol)
  obtain ⟨before, after, hsplit⟩ := exists_visits_eq (o := o) hrow hcol
  have haccepts : Visit.IsCompared ⟨row, col, c, o.valueOf (t.cell row col)⟩ ↔
      c.Accepts (o.valueOf (t.cell row col)) := by
    rw [hc.accepts_iff]
    exact and_iff_right hu
  have hfound : Visit.finding? o.matching before ⟨row, col, c, o.valueOf (t.cell row col)⟩ =
      some .repeated ↔ _ := Visit.finding?_eq_repeated_iff
  rw [exists_compared_before_iff hs hsplit, haccepts, and_iff_right hu] at hfound
  rw [← hfound, hs.code_of_visits_eq hsplit]
  cases hf : Visit.finding? o.matching before ⟨row, col, c, o.valueOf (t.cell row col)⟩ with
  | none => simp
  | some f =>
    have hmem : (_, f) ∈ trace o.matching [] (p.visits o t) :=
      mem_trace.mpr ⟨before, after, hsplit, hf⟩
    rw [Option.map_some, Option.getD_some, Option.some.injEq]
    exact (hs.hasFinding_of_mem_trace hmem).toByte_eq_repeated_iff

end AuditPlan

private theorem length_dedup_append_singleton {κ : Type} [DecidableEq κ] (l : List κ) (k : κ) :
    (l ++ [k]).dedup.length = l.dedup.length + if k ∈ l then 0 else 1 := by
  rw [(List.perm_append_singleton k l).dedup.length_eq]
  split
  · rename_i h
    rw [List.dedup_cons_of_mem h, Nat.add_zero]
  · rename_i h
    rw [List.dedup_cons_of_notMem h, List.length_cons]

private theorem countP_repeats_add {κ : Type} [DecidableEq κ] (chosen : Nat → Prop)
    [DecidablePred chosen] (key : Nat → κ) (n : Nat) :
    (List.range n).countP (fun i => chosen i ∧ ∃ j < i, chosen j ∧ key j = key i) +
      (((List.range n).filter chosen).map key).dedup.length =
        ((List.range n).filter chosen).length := by
  induction n with
  | zero => rfl
  | succ n ih =>
    have hmem : key n ∈ ((List.range n).filter chosen).map key ↔
        ∃ j < n, chosen j ∧ key j = key n := by
      simp [and_assoc]
    rw [List.range_succ, List.countP_append, List.filter_append]
    by_cases hn : chosen n
    · have hlast : [n].filter chosen = [n] := by simp [hn]
      rw [hlast, List.map_append, List.map_singleton, length_dedup_append_singleton,
        List.length_append, List.length_singleton, ← ih]
      by_cases hr : ∃ j < n, chosen j ∧ key j = key n
      · rw [if_pos (hmem.mpr hr), List.countP_singleton]
        simp [hn, hr]
        omega
      · rw [if_neg (hmem.not.mpr hr), List.countP_singleton]
        simp [hn, hr]
        omega
    · have hlast : [n].filter chosen = [] := by simp [hn]
      rw [hlast, List.append_nil, ← ih, List.countP_singleton]
      simp [hn]

/-- The totals of an audit are the same for the rows in any order. In a column without repetitions
the repeated values and the different keys are as many as the accepted values. -/
theorem Schema.totals_of_perm {s : Schema} {source : LocaleSource} {p : AuditPlan}
    (h : s.plan source = .ok p) (o : Options) (t : Table) :
    (∀ t' : Table, t.toList.Perm t'.toList →
      (p.audit o t).count = (p.audit o t').count ∧
      (p.audit o t).tally.byRule.toList = (p.audit o t').tally.byRule.toList ∧
      (p.audit o t).tally.byColumn.toList = (p.audit o t').tally.byColumn.toList) ∧
    ∀ col c, p.columns[col]? = some c → c.isUnique = true →
      let accepted := (List.range t.size).filter fun row => c.Accepts (o.valueOf (t.cell row col))
      let keys := accepted.map fun row => o.matching.key (o.valueOf (t.cell row col))
      (List.range t.size).countP (fun row => (p.audit o t).code row col = 251) +
        keys.dedup.length = accepted.length := by
  have hs := plan_sound h
  refine ⟨fun t' ht => ?perm, fun col c hcol hu => ?repeated⟩
  case perm =>
    have hlabels := AuditPlan.labels_audit_perm (p := p) (o := o) ht
    obtain ⟨hrules, hcolumns⟩ := p.counts_audit o t
    obtain ⟨hrules', hcolumns'⟩ := p.counts_audit o t'
    have hrule := hlabels.map Prod.fst
    have hcolumn := hlabels.map Prod.snd
    rw [List.map_map, List.map_map] at hrule hcolumn
    refine ⟨?_, (hrules.perm hrule).toList_eq hrules', (hcolumns.perm hcolumn).toList_eq hcolumns'⟩
    have hlength := hlabels.length_eq
    rwa [List.length_map, List.length_map, hs.length_trace, hs.length_trace] at hlength
  case repeated =>
    intro accepted keys
    have hcodes : (List.range t.size).countP (fun row => (p.audit o t).code row col = 251) =
        (List.range t.size).countP fun row => c.Accepts (o.valueOf (t.cell row col)) ∧
          ∃ above < row, c.Accepts (o.valueOf (t.cell above col)) ∧
            o.matching.key (o.valueOf (t.cell above col)) =
              o.matching.key (o.valueOf (t.cell row col)) := by
      refine List.countP_congr fun row hrow => ?_
      rw [decide_eq_true_iff, decide_eq_true_iff]
      exact hs.code_eq_repeated_iff (List.mem_range.mp hrow) hcol hu
    rw [hcodes]
    exact countP_repeats_add (fun row => c.Accepts (o.valueOf (t.cell row col)))
      (fun row => o.matching.key (o.valueOf (t.cell row col))) t.size

private def codeSchema : Schema := ⟨[⟨"code", .string, [.unique], none, []⟩], none⟩

private def codePlan : AuditPlan := ⟨[⟨"code", .string, none, [], ∅, false, true, []⟩]⟩

/-- One of three codes is a repetition, whichever comes last. -/
theorem Schema.totals_of_perm_codes : codeSchema.plan ⟨fun _ _ _ => none⟩ = .ok codePlan ∧
    (codePlan.audit .standard #[#["a"], #["b"], #["a"]]).count =
      (codePlan.audit .standard #[#["b"], #["a"], #["a"]]).count ∧
    (List.range 3).countP (fun row =>
      (codePlan.audit .standard #[#["a"], #["b"], #["a"]]).code row 0 = 251) = 1 := by
  have hplan : codeSchema.plan ⟨fun _ _ _ => none⟩ = .ok codePlan := rfl
  obtain ⟨hperm, hrepeated⟩ :=
    Schema.totals_of_perm hplan .standard #[#["a"], #["b"], #["a"]]
  have hrows : (#[#["a"], #["b"], #["a"]] : Table).toList.Perm
      (#[#["b"], #["a"], #["a"]] : Table).toList := .swap _ _ _
  obtain ⟨hcount, _⟩ := hperm _ hrows
  have hcodes := hrepeated 0 _ rfl rfl
  refine ⟨hplan, hcount, ?_⟩
  exact Nat.add_right_cancel (m := 2) hcodes

end TableAudit
