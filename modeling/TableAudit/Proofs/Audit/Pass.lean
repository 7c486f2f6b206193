import TableAudit.Audit.Views
import TableAudit.Proofs.Grid.Marks
import TableAudit.Proofs.Plan.Meaning

/-! A pass as a walk over its cells that marks and counts one finding after the other. The byte of a
cell is told by its column's plan, its value and the sound values above it. -/
namespace TableAudit

def Visit.Precedes (v w : Visit) : Prop := Prod.Lex (· < ·) (· < ·) (v.row, v.col) (w.row, w.col)

private theorem Visit.Precedes.ne {v w : Visit} (h : v.Precedes w) :
    ¬ (v.row = w.row ∧ v.col = w.col) := by
  rintro ⟨hrow, hcol⟩
  rcases Prod.lex_def.mp h with h | ⟨_, h⟩
  · exact Nat.ne_of_lt h hrow
  · exact Nat.ne_of_lt h hcol

namespace AuditPlan
variable {p : AuditPlan} {o : Options} {t : Table}

theorem visits_eq (p : AuditPlan) (o : Options) (t : Table) :
    p.visits o t = (List.range t.size).flatMap fun row =>
      p.columns.zipIdx.map fun (column, col) => ⟨row, col, column, o.valueOf (t.cell row col)⟩ := by
  have hrows : t.toList.zipIdx = (List.range t.size).map fun row => (t.getD row #[], row) := by
    apply List.ext_getElem
    · simp
    · intro row hrow _
      have hlt : row < t.size := by simpa using hrow
      simp [hlt]
  rw [visits, hrows, List.flatMap_map]
  rfl

theorem mem_visits {v : Visit} :
    v ∈ p.visits o t ↔ v.row < t.size ∧ p.columns[v.col]? = some v.column ∧
      v.value = o.valueOf (t.cell v.row v.col) := by
  rw [visits_eq]
  simp only [List.mem_flatMap, List.mem_range, List.mem_map, Prod.exists,
    List.mem_zipIdx_iff_getElem?]
  constructor
  · rintro ⟨row, hrow, column, col, hcol, rfl⟩
    exact ⟨hrow, hcol, rfl⟩
  · rintro ⟨hrow, hcol, hvalue⟩
    exact ⟨v.row, hrow, v.column, v.col, hcol, by rw [← hvalue]⟩

private theorem pairwise_visits : (p.visits o t).Pairwise Visit.Precedes := by
  refine List.pairwise_flatMap.mpr ⟨fun (cells, row) _ => ?row, ?rows⟩
  case row =>
    rw [List.pairwise_map]
    exact (pairwise_zipIdx p.columns).imp fun h => .right _ h
  case rows =>
    refine (pairwise_zipIdx t.toList).imp fun h v hv w hw => ?_
    obtain ⟨_, _, rfl⟩ := List.mem_map.mp hv
    obtain ⟨_, _, rfl⟩ := List.mem_map.mp hw
    exact .left _ _ h

theorem exists_visits_eq {row col : Nat} (hrow : row < t.size) {c : ColumnPlan}
    (hcol : p.columns[col]? = some c) :
    ∃ before after, p.visits o t = before ++ ⟨row, col, c, o.valueOf (t.cell row col)⟩ :: after :=
  List.append_of_mem (mem_visits.mpr ⟨hrow, hcol, rfl⟩)

private theorem precedes_of_visits_eq {v : Visit} {before after : List Visit}
    (h : p.visits o t = before ++ v :: after) :
    (∀ w ∈ before, w.Precedes v) ∧ ∀ w ∈ after, v.Precedes w := by
  have hp : (before ++ v :: after).Pairwise _ := h ▸ pairwise_visits (p := p) (o := o) (t := t)
  rw [List.pairwise_append, List.pairwise_cons] at hp
  exact ⟨fun w hw => hp.2.2 w hw v List.mem_cons_self, hp.2.1.1⟩

end AuditPlan

namespace Visit

/-- A value that is looked at for repetitions: it is there, and neither a test nor a custom rule of its
column rejects it. -/
def IsCompared (v : Visit) : Prop :=
  v.column.isUnique = true ∧ v.value ≠ "" ∧ v.column.finding? v.value = none

instance : DecidablePred IsCompared := fun v =>
  inferInstanceAs (Decidable (v.column.isUnique = true ∧ v.value ≠ "" ∧ _ = none))

def key (m : Matching) (v : Visit) : Nat × String := (v.col, m.key v.value)

/-- The finding of a cell behind these others. -/
def finding? (m : Matching) (earlier : List Visit) (v : Visit) : Option Finding :=
  match v.column.finding? v.value with
  | some f => some f
  | none =>
    if v.IsCompared ∧ ∃ w ∈ earlier, w.IsCompared ∧ w.key m = v.key m then some .repeated else none

variable {m : Matching} {earlier : List Visit} {v : Visit}

private theorem isCompared_iff (h : v.column.finding? v.value = none) :
    v.IsCompared ↔ ¬ (v.value.isEmpty || !v.column.isUnique) = true := by
  simp [IsCompared, h, and_comm]

theorem finding?_of_column {f : Finding} (h : v.column.finding? v.value = some f) :
    v.finding? m earlier = some f := by
  rw [finding?, h]

theorem finding?_of_repeats (hc : v.IsCompared)
    (hr : ∃ w ∈ earlier, w.IsCompared ∧ w.key m = v.key m) :
    v.finding? m earlier = some .repeated := by
  simp only [finding?, hc.2.2, if_pos (And.intro hc hr)]

theorem finding?_of_not_repeats (h : v.column.finding? v.value = none)
    (hr : ¬ (v.IsCompared ∧ ∃ w ∈ earlier, w.IsCompared ∧ w.key m = v.key m)) :
    v.finding? m earlier = none := by
  simp only [finding?, h, if_neg hr]

end Visit

def trace (m : Matching) (earlier : List Visit) : List Visit → List (Visit × Finding)
  | [] => []
  | v :: vs => ((v.finding? m earlier).map (v, ·)).toList ++ trace m (earlier ++ [v]) vs

private theorem trace_append (m : Matching) (earlier vs ws : List Visit) :
    trace m earlier (vs ++ ws) = trace m earlier vs ++ trace m (earlier ++ vs) ws := by
  induction vs generalizing earlier with
  | nil => simp [trace]
  | cons v vs ih => simp [trace, ih]

theorem mem_trace {m : Matching} {earlier vs : List Visit} {v : Visit} {f : Finding} :
    (v, f) ∈ trace m earlier vs ↔
      ∃ before after, vs = before ++ v :: after ∧ v.finding? m (earlier ++ before) = some f := by
  induction vs generalizing earlier with
  | nil => simp [trace]
  | cons w ws ih =>
    simp only [trace, List.mem_append, Option.mem_toList, Option.map_eq_some_iff, Prod.mk.injEq, ih]
    constructor
    · rintro (⟨f, hf, rfl, rfl⟩ | ⟨before, after, rfl, hf⟩)
      · exact ⟨[], ws, rfl, by simpa using hf⟩
      · exact ⟨w :: before, after, rfl, by simpa using hf⟩
    · rintro ⟨before, after, hws, hf⟩
      cases before with
      | nil =>
        obtain ⟨rfl, rfl⟩ := List.cons.inj hws
        exact .inl ⟨f, by simpa using hf, rfl, rfl⟩
      | cons b bs =>
        obtain ⟨rfl, rfl⟩ := List.cons.inj hws
        exact .inr ⟨bs, after, rfl, by simpa using hf⟩

private theorem mem_of_mem_trace {m : Matching} {earlier vs : List Visit} {v : Visit} {f : Finding}
    (h : (v, f) ∈ trace m earlier vs) : v ∈ vs := by
  obtain ⟨before, after, rfl, _⟩ := mem_trace.mp h
  exact List.mem_append_right before List.mem_cons_self

private theorem trace_sublist (m : Matching) (earlier vs : List Visit) :
    ((trace m earlier vs).map Prod.fst).Sublist vs := by
  induction vs generalizing earlier with
  | nil => exact .slnil
  | cons v vs ih =>
    rw [trace]
    cases v.finding? m earlier with
    | none => exact (ih _).cons v
    | some f => exact (ih _).cons_cons v

def Marks.markAll (m : Marks) (found : List (Visit × Finding)) : Marks :=
  found.foldl (fun b (v, f) => b.mark v.row v.col f) m

def Tally.addAll (n : Tally) (found : List (Visit × Finding)) : Tally :=
  found.foldl (fun n (v, f) => n.add (v.column.ruleOf f) v.column.name) n

namespace Progress

/-- What a pass keeps of the cells that it has visited: the marks and counts of their findings, and the
keys of the values that were compared. -/
structure Follows (m : Matching) (rows cols : Nat) (visited : List Visit) (s : Progress) :
    Prop where
  seen : ∀ k, s.seen.contains k = true ↔ ∃ w ∈ visited, w.IsCompared ∧ w.key m = k
  marks : s.marks = (Marks.clear rows cols).markAll (trace m [] visited)
  tally : s.tally = Tally.empty.addAll (trace m [] visited)

private theorem follows_start (m : Matching) (rows cols : Nat) :
    (start rows cols).Follows m rows cols [] :=
  ⟨fun k => by simp [start], rfl, rfl⟩

variable {m : Matching} {rows cols : Nat} {visited : List Visit} {s : Progress}

private theorem exists_mem_snoc {k : Nat × String} {v : Visit} :
    (∃ w ∈ visited ++ [v], w.IsCompared ∧ w.key m = k) ↔
      (∃ w ∈ visited, w.IsCompared ∧ w.key m = k) ∨ v.IsCompared ∧ v.key m = k := by
  simp only [List.mem_append, List.mem_singleton, or_and_right, exists_or, exists_eq_left]

private theorem Follows.note (h : s.Follows m rows cols visited) {v : Visit} {f : Finding}
    (hf : v.finding? m visited = some f)
    (hv : v.IsCompared → ∃ w ∈ visited, w.IsCompared ∧ w.key m = v.key m) :
    (s.note v f).Follows m rows cols (visited ++ [v]) where
  seen k := by
    rw [exists_mem_snoc, Progress.note, h.seen, or_iff_left_of_imp]
    rintro ⟨hc, rfl⟩
    exact hv hc
  marks := by simp [Progress.note, h.marks, Marks.markAll, trace_append, trace, hf]
  tally := by simp [Progress.note, h.tally, Tally.addAll, trace_append, trace, hf]

private theorem Follows.pass (h : s.Follows m rows cols visited) {v : Visit}
    (hf : v.finding? m visited = none) {seen : Std.HashSet (Nat × String)}
    (hseen : ∀ k, seen.contains k = true ↔ s.seen.contains k = true ∨ v.IsCompared ∧ v.key m = k) :
    Follows m rows cols (visited ++ [v]) { s with seen } where
  seen k := by rw [exists_mem_snoc, ← h.seen]; exact hseen k
  marks := by simp [h.marks, trace_append, trace, hf]
  tally := by simp [h.tally, trace_append, trace, hf]

private theorem Follows.visit (h : s.Follows m rows cols visited) (v : Visit) :
    (s.visit m v).Follows m rows cols (visited ++ [v]) := by
  unfold Progress.visit
  split
  · rename_i f hf
    refine h.note (Visit.finding?_of_column hf) fun hc => ?_
    cases hf.symm.trans hc.2.2
  rename_i hf
  split
  · rename_i hskip
    have hc : ¬ v.IsCompared := fun hc => (Visit.isCompared_iff hf).mp hc hskip
    exact h.pass (Visit.finding?_of_not_repeats hf fun hr => hc hr.1) fun k => by simp [hc]
  rename_i hkeep
  have hc : v.IsCompared := (Visit.isCompared_iff hf).mpr hkeep
  -- the keys that are remembered are those of the compared cells before
  have hkey : s.seen.contains (v.key m) = true ↔ _ := h.seen (v.key m)
  change Follows _ _ _ _ (if s.seen.contains (v.key m) then _ else _)
  split
  · rename_i hseen
    rw [hkey] at hseen
    exact h.note (Visit.finding?_of_repeats hc hseen) fun _ => hseen
  · rename_i hseen
    rw [hkey] at hseen
    refine h.pass (Visit.finding?_of_not_repeats hf fun hr => hseen hr.2) fun k => ?_
    simp [hc, or_comm, Visit.key]

private theorem Follows.foldl (h : s.Follows m rows cols visited) (vs : List Visit) :
    (vs.foldl (Progress.visit m) s).Follows m rows cols (visited ++ vs) := by
  induction vs generalizing s visited with
  | nil => simpa using h
  | cons v vs ih => simpa using ih (h.visit v)

end Progress

/-- A pass keeps the marks and counts of its trace. -/
theorem AuditPlan.audit_follows (p : AuditPlan) (o : Options) (t : Table) :
    ((p.visits o t).foldl (Progress.visit o.matching)
      (.start t.size p.columns.length)).Follows o.matching t.size p.columns.length
      (p.visits o t) := by
  simpa using (Progress.follows_start o.matching t.size p.columns.length).foldl (p.visits o t)

namespace Marks
variable {m : Marks} {rows cols : Nat} {found : List (Visit × Finding)}

private theorem Agree.markAll (h : m.Agree rows cols) (hf : ∀ x ∈ found, x.2.toByte ≠ 0) :
    (m.markAll found).Agree rows cols := by
  induction found generalizing m with
  | nil => exact h
  | cons x xs ih =>
    rw [List.forall_mem_cons] at hf
    exact ih (h.mark x.1.row x.1.col hf.1) hf.2

private theorem Agree.get_markAll_of_forall_ne (h : m.Agree rows cols)
    (hf : ∀ x ∈ found, x.2.toByte ≠ 0) {row col : Nat}
    (hne : ∀ x ∈ found, ¬ (row = x.1.row ∧ col = x.1.col)) :
    (m.markAll found).codes.get row col = m.codes.get row col := by
  induction found generalizing m with
  | nil => rfl
  | cons x xs ih =>
    rw [List.forall_mem_cons] at hf hne
    change ((m.mark x.1.row x.1.col x.2).markAll xs).codes.get row col = _
    rw [ih (h.mark _ _ hf.1) hf.2 hne.2, h.get_mark, if_neg fun hc => hne.1 ⟨hc.1, hc.2.1⟩]

private theorem Agree.get_markAll_of_mem (h : m.Agree rows cols) (hf : ∀ x ∈ found, x.2.toByte ≠ 0)
    (hp : found.Pairwise fun x y => ¬ (x.1.row = y.1.row ∧ x.1.col = y.1.col))
    {v : Visit} {f : Finding} (hv : (v, f) ∈ found) (hrow : v.row < rows) (hcol : v.col < cols) :
    (m.markAll found).codes.get v.row v.col = f.toByte := by
  induction found generalizing m with
  | nil => simp at hv
  | cons x xs ih =>
    rw [List.forall_mem_cons] at hf
    rw [List.pairwise_cons] at hp
    change ((m.mark x.1.row x.1.col x.2).markAll xs).codes.get v.row v.col = _
    rcases List.mem_cons.mp hv with rfl | hv
    · rw [(h.mark _ _ hf.1).get_markAll_of_forall_ne hf.2 hp.1, h.get_mark,
        if_pos ⟨rfl, rfl, hrow, hcol⟩]
    · exact ih (h.mark _ _ hf.1) hf.2 hp.2 hv

end Marks

namespace ColumnPlan

/-- The findings that a column can have: faults with a notice, its own custom rules, and repetitions
where they are forbidden. -/
def HasFinding (c : ColumnPlan) : Finding → Prop
  | .check k => 1 ≤ k.toNat ∧ k.toNat ≤ 200 ∧ ∃ n, c.notice? k = some n
  | .custom i => i.toNat < c.customRules.length ∧ i.toNat < 50
  | .repeated => c.isUnique = true

variable {c : ColumnPlan} {f : Finding}

theorem HasFinding.toNat_toByte (h : c.HasFinding f) : f.toByte.toNat = match f with
    | .check k => k.toNat
    | .custom i => 201 + i.toNat
    | .repeated => 251 := by
  cases f with
  | check k => rfl
  | custom i =>
    have := h.2
    rw [Finding.toByte, UInt8.toNat_add, show Finding.customBase.toNat = 201 from rfl]
    exact Nat.mod_eq_of_lt (by omega)
  | repeated => rfl

theorem HasFinding.toByte_ne_zero (h : c.HasFinding f) : f.toByte ≠ 0 := by
  intro h0
  have hb := h.toNat_toByte
  rw [h0] at hb
  cases f with
  | check k => exact absurd h.1 (by simp_all)
  | custom | repeated => simp at hb <;> omega

theorem Sound.hasFinding_of_finding? (hs : c.Sound) {value : String}
    (h : c.finding? value = some f) : c.HasFinding f := by
  unfold finding? at h
  split at h
  · rename_i k hk
    cases h
    exact ⟨(hs.bounds hk).1, (hs.bounds hk).2, hs.noticed hk⟩
  split at h
  · cases h
  obtain ⟨i, hi, rfl⟩ := Option.map_eq_some_iff.mp h
  obtain ⟨hlt, _⟩ := List.findIdx?_eq_some_iff_getElem.mp hi
  have hroom := hs.customRules
  change _ < _ ∧ _ < 50
  rw [UInt8.toNat_ofNat', Nat.mod_eq_of_lt (by omega)]
  omega

end ColumnPlan

namespace AuditPlan
variable {p : AuditPlan} {o : Options} {t : Table}

theorem column_of_mem_trace {v : Visit} {f : Finding}
    (h : (v, f) ∈ trace o.matching [] (p.visits o t)) : p.columns[v.col]? = some v.column :=
  (mem_visits.mp (mem_of_mem_trace h)).2.1

theorem Sound.hasFinding_of_mem_trace (hs : p.Sound) {v : Visit} {f : Finding}
    (h : (v, f) ∈ trace o.matching [] (p.visits o t)) : v.column.HasFinding f := by
  obtain ⟨_, _, _, hf⟩ := mem_trace.mp h
  have hc : v.column.Sound := hs _ (List.mem_of_getElem? (column_of_mem_trace h))
  unfold Visit.finding? at hf
  split at hf
  · rename_i f' hf'
    cases hf
    exact hc.hasFinding_of_finding? hf'
  split at hf
  · rename_i hr
    cases hf
    exact hr.1.1
  · cases hf

theorem Sound.marks_agree (hs : p.Sound) (o : Options) (t : Table) :
    (p.audit o t).marks.Agree t.size p.columns.length := by
  rw [audit, (p.audit_follows o t).marks]
  exact (Marks.agree_clear _ _).markAll fun (v, f) hx =>
    (hs.hasFinding_of_mem_trace hx).toByte_ne_zero

theorem pairwise_trace :
    (trace o.matching [] (p.visits o t)).Pairwise fun x y => x.1.Precedes y.1 := by
  have h := (pairwise_visits (p := p) (o := o) (t := t)).sublist (trace_sublist o.matching [] _)
  rwa [List.pairwise_map] at h

/-- The byte of a cell is that of its finding behind the cells before it. -/
theorem Sound.code_of_visits_eq (hs : p.Sound) {v : Visit} {before after : List Visit}
    (h : p.visits o t = before ++ v :: after) :
    (p.audit o t).code v.row v.col =
      ((v.finding? o.matching before).map Finding.toByte).getD 0 := by
  have hv : v ∈ p.visits o t := h ▸ List.mem_append_right before List.mem_cons_self
  obtain ⟨hrow, hcol, _⟩ := mem_visits.mp hv
  have hbytes : ∀ x ∈ trace o.matching [] (p.visits o t), x.2.toByte ≠ 0 := fun (w, f) hx =>
    (hs.hasFinding_of_mem_trace hx).toByte_ne_zero
  have hagree := Marks.agree_clear t.size p.columns.length
  rw [Audit.code, audit, (p.audit_follows o t).marks]
  cases hf : v.finding? o.matching before with
  | some f =>
    exact hagree.get_markAll_of_mem hbytes (pairwise_trace.imp Visit.Precedes.ne)
      (mem_trace.mpr ⟨before, after, h, hf⟩) hrow (List.getElem?_eq_some_iff.mp hcol).1
  | none =>
    rw [hagree.get_markAll_of_forall_ne hbytes]
    · exact CodeMatrix.get_clear _ _ _ _
    obtain ⟨hbefore, hafter⟩ := precedes_of_visits_eq h
    rw [h, trace_append, trace, List.nil_append, hf]
    intro x hx
    rcases List.mem_append.mp hx with hx | hx
    · have hx := (trace_sublist _ _ _).subset (List.mem_map_of_mem hx)
      exact fun he => (hbefore _ hx).ne (he.imp Eq.symm Eq.symm)
    · have hx := (trace_sublist _ _ _).subset (List.mem_map_of_mem hx)
      exact (hafter _ hx).ne

end AuditPlan

namespace ColumnPlan

/-- A value that is there, passes the tests of its column and is rejected by no custom rule. -/
def Accepts (c : ColumnPlan) (value : String) : Prop :=
  value ≠ "" ∧ c.validate value = 0 ∧ ∀ r ∈ c.customRules, r.accepts value = true

def FirstRejecting (c : ColumnPlan) (value : String) (i : Nat) : Prop :=
  (∃ r, c.customRules[i]? = some r ∧ r.accepts value = false) ∧
    ∀ j < i, ∀ r, c.customRules[j]? = some r → r.accepts value = true

variable {c : ColumnPlan} {value : String}

theorem finding?_eq_none_iff : c.finding? value = none ↔
    c.fault? value = none ∧ (value ≠ "" → ∀ r ∈ c.customRules, r.accepts value = true) := by
  unfold finding? failingCustom?
  cases c.fault? value with
  | some k => simp
  | none =>
    by_cases hv : value = ""
    · simp [hv]
    · simp [hv, List.findIdx?_eq_none_iff]

theorem Sound.accepts_iff (hs : c.Sound) :
    c.Accepts value ↔ value ≠ "" ∧ c.finding? value = none := by
  rw [Accepts, hs.validate_eq_zero_iff, finding?_eq_none_iff]
  exact and_congr_right fun hv => and_congr_right fun _ => (imp_iff_right hv).symm

private theorem finding?_of_firstRejecting (hf : c.fault? value = none) (hv : value ≠ "") {i : Nat}
    (hi : c.FirstRejecting value i) : c.finding? value = some (.custom (UInt8.ofNat i)) := by
  obtain ⟨⟨r, hr, hrejects⟩, hbefore⟩ := hi
  obtain ⟨hlt, rfl⟩ := List.getElem?_eq_some_iff.mp hr
  have hfirst : c.failingCustom? value = some i := by
    refine List.findIdx?_eq_some_iff_getElem.mpr ⟨hlt, by simp [hrejects], fun j hj => ?_⟩
    simp [hbefore j hj _ (List.getElem?_eq_getElem (hj.trans hlt))]
  simp [finding?, hf, hv, hfirst]

end ColumnPlan

namespace AuditPlan
variable {p : AuditPlan} {o : Options} {t : Table}

/-- A compared cell with a given key is an accepted value with that key in a column without
repetitions. -/
theorem Sound.isCompared_iff (hs : p.Sound) {w : Visit} (hw : w ∈ p.visits o t) {col : Nat}
    {c : ColumnPlan} (hcol : p.columns[col]? = some c) {k : String} :
    w.IsCompared ∧ w.key o.matching = (col, k) ↔
      w.col = col ∧ c.isUnique = true ∧ c.Accepts w.value ∧ o.matching.key w.value = k := by
  have hc : c.Sound := hs c (List.mem_of_getElem? hcol)
  have hcolumn : w.col = col → w.column = c := fun h =>
    Option.some.inj ((mem_visits.mp hw).2.1.symm.trans (h ▸ hcol))
  rw [hc.accepts_iff]
  constructor
  · rintro ⟨⟨hu, hne, hf⟩, hkey⟩
    obtain ⟨hwcol, hkey⟩ := Prod.mk.inj hkey
    rw [hcolumn hwcol] at hu hf
    exact ⟨hwcol, hu, ⟨hne, hf⟩, hkey⟩
  · rintro ⟨hwcol, hu, ⟨hne, hf⟩, hkey⟩
    rw [← hcolumn hwcol] at hu hf
    exact ⟨⟨hu, hne, hf⟩, Prod.ext hwcol hkey⟩

/-- The compared cells with the key of a cell that come before it are those above it. -/
theorem exists_compared_before_iff (hs : p.Sound) {v : Visit} {before after : List Visit}
    (h : p.visits o t = before ++ v :: after) :
    (∃ w ∈ before, w.IsCompared ∧ w.key o.matching = v.key o.matching) ↔
      v.column.isUnique = true ∧ ∃ row < v.row, v.column.Accepts (o.valueOf (t.cell row v.col)) ∧
        o.matching.key (o.valueOf (t.cell row v.col)) = o.matching.key v.value := by
  have hv : v ∈ p.visits o t := h ▸ List.mem_append_right before List.mem_cons_self
  obtain ⟨hrow, hcol, _⟩ := mem_visits.mp hv
  obtain ⟨hbefore, hafter⟩ := precedes_of_visits_eq h
  constructor
  · rintro ⟨w, hw, hcompared⟩
    have hvisit : w ∈ p.visits o t := h ▸ List.mem_append_left _ hw
    obtain ⟨hcoleq, hu, haccepts, hkey⟩ := (hs.isCompared_iff hvisit hcol).mp hcompared
    have hlt : w.row < v.row := by
      rcases Prod.lex_def.mp (hbefore w hw) with hlt | ⟨_, hlt⟩
      · exact hlt
      · exact absurd hcoleq (Nat.ne_of_lt hlt)
    rw [(mem_visits.mp hvisit).2.2, hcoleq] at haccepts hkey
    exact ⟨hu, w.row, hlt, haccepts, hkey⟩
  · rintro ⟨hu, row, hlt, haccepts, hkey⟩
    have hw : Visit.mk row v.col v.column (o.valueOf (t.cell row v.col)) ∈ p.visits o t :=
      mem_visits.mpr ⟨hlt.trans hrow, hcol, rfl⟩
    refine ⟨_, ?_, (hs.isCompared_iff hw hcol).mpr ⟨rfl, hu, haccepts, hkey⟩⟩
    rw [h, List.mem_append, List.mem_cons] at hw
    rcases hw with hw | hw | hw
    · exact hw
    · exact absurd (congrArg Visit.row hw) (Nat.ne_of_lt hlt)
    · rcases Prod.lex_def.mp (hafter _ hw) with hgt | ⟨_, hgt⟩
      · exact absurd hlt (Nat.lt_asymm hgt)
      · exact absurd hgt (Nat.lt_irrefl _)

end AuditPlan

private theorem Matching.key_eq (m : Matching) (v : String) : m.key v =
    match m with
    | .exact => v
    | .caseInsensitive => Text.lowered v := by
  cases m
  all_goals rfl

/-- The byte of a cell. A fault of its value gives the code of the fault; else an empty value gives
none, and another the byte of the first custom rule that rejects it. A value that its column accepts
is a repetition where that is forbidden and an accepted value above it has the same key. -/
theorem Schema.code_of_audit {s : Schema} {source : LocaleSource} {p : AuditPlan}
    (h : s.plan source = .ok p) (o : Options) (t : Table) {row col : Nat} (hrow : row < t.size)
    {c : ColumnPlan} (hcol : p.columns[col]? = some c) :
    let valueIn (row : Nat) : String :=
      if o.trimCells then Text.trimmed (t.cell row col) else t.cell row col
    let key (v : String) : String :=
      match o.matching with
      | .exact => v
      | .caseInsensitive => Text.lowered v
    let value := valueIn row
    let code := (p.audit o t).code row col
    let repeats := c.isUnique = true ∧
      ∃ above < row, c.Accepts (valueIn above) ∧ key (valueIn above) = key value
    (c.validate value ≠ 0 → code = c.validate value) ∧
    (c.validate value = 0 → value = "" → code = 0) ∧
    (c.validate value = 0 → value ≠ "" → ∀ i, c.FirstRejecting value i → code.toNat = 201 + i) ∧
    (c.Accepts value → repeats → code = 251) ∧ (c.Accepts value → ¬ repeats → code = 0) := by
  intro valueIn key value code repeats
  have hs := plan_sound h
  have hc : c.Sound := hs c (List.mem_of_getElem? hcol)
  obtain ⟨before, after, hsplit⟩ := AuditPlan.exists_visits_eq (o := o) hrow hcol
  have hcode : code = _ := hs.code_of_visits_eq hsplit
  have habove := AuditPlan.exists_compared_before_iff hs hsplit
  simp only [Matching.key_eq] at habove
  refine ⟨fun hv => ?fault, fun hv he => ?empty, fun hv hne i hi => ?custom, fun ha hr => ?again,
    fun ha hr => ?clear⟩
  case fault =>
    obtain ⟨k, hk⟩ := Option.ne_none_iff_exists'.mp (mt hc.validate_eq_zero_iff.mpr hv)
    have hf : c.finding? value = some (.check k) := by simp only [ColumnPlan.finding?, hk]
    rw [hcode, Visit.finding?_of_column hf, (hc.validate_of_fault? hk).1]
    rfl
  case empty =>
    have hf : c.finding? value = none := by
      rw [ColumnPlan.finding?, hc.validate_eq_zero_iff.mp hv]
      exact if_pos (String.isEmpty_iff.mpr he)
    rw [hcode, Visit.finding?_of_not_repeats hf fun hr => hr.1.2.1 he]
    rfl
  case custom =>
    have hf := ColumnPlan.finding?_of_firstRejecting (hc.validate_eq_zero_iff.mp hv) hne hi
    have hbyte := (hc.hasFinding_of_finding? hf).toNat_toByte
    obtain ⟨⟨r, hr, _⟩, _⟩ := hi
    have hlt := (List.getElem?_eq_some_iff.mp hr).1
    have hroom := hc.customRules
    rw [hcode, Visit.finding?_of_column hf, Option.map_some, Option.getD_some, hbyte]
    change 201 + (UInt8.ofNat i).toNat = _
    rw [UInt8.toNat_ofNat', Nat.mod_eq_of_lt (by omega)]
  case again =>
    obtain ⟨hne, hf⟩ := hc.accepts_iff.mp ha
    rw [hcode, Visit.finding?_of_repeats ⟨hr.1, hne, hf⟩ (habove.mpr hr)]
    rfl
  case clear =>
    obtain ⟨_, hf⟩ := hc.accepts_iff.mp ha
    rw [hcode, Visit.finding?_of_not_repeats hf fun hcr => hr (habove.mp hcr.2)]
    rfl

private def idPlan : AuditPlan := ⟨[⟨"id", .string, none, [], ∅, false, true, []⟩]⟩

/-- The second of two values that must not repeat and are equal but for blanks and case. -/
theorem Schema.code_of_audit_repeated_id :
    Schema.plan ⟨[⟨"id", .string, [.unique], none, []⟩], none⟩ ⟨fun _ _ _ => none⟩ = .ok idPlan ∧
      (idPlan.audit ⟨true, .caseInsensitive⟩ #[#["a "], #["\tA"]]).code 1 0 = 251 := by
  have hplan : Schema.plan ⟨[⟨"id", .string, [.unique], none, []⟩], none⟩ ⟨fun _ _ _ => none⟩ =
      .ok idPlan := rfl
  have haccepts : ∀ value ≠ "",
      ColumnPlan.Accepts ⟨"id", .string, none, [], ∅, false, true, []⟩ value :=
    fun value hne => ⟨hne, rfl, by simp⟩
  have hrow : 1 < Array.size (#[#["a "], #["\tA"]] : Table) := by decide
  have hcol : idPlan.columns[0]? = some ⟨"id", .string, none, [], ∅, false, true, []⟩ := rfl
  obtain ⟨_, _, _, hagain, _⟩ := Schema.code_of_audit hplan ⟨true, .caseInsensitive⟩ _ hrow hcol
  have habove : Text.trimmed "a " ≠ "" := by decide
  have hvalue : Text.trimmed "\tA" ≠ "" := by decide
  have hkey : Text.lowered (Text.trimmed "a ") = Text.lowered (Text.trimmed "\tA") := by decide
  exact ⟨hplan, hagain (haccepts _ hvalue) ⟨rfl, 0, Nat.one_pos, haccepts _ habove, hkey⟩⟩

end TableAudit
