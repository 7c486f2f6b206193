import TableAudit.Proofs.Plan.Demands

/-! A plan is built from the demands of its column one after the other, with codes from 1 to at most
200 without gaps. -/
namespace TableAudit

theorem bind_eq_ok {ε α β : Type} {x : Except ε α} {f : α → Except ε β} {b : β} :
    (x >>= f) = .ok b ↔ ∃ a, x = .ok a ∧ f a = .ok b := by
  cases x <;> simp [bind, Except.bind]

namespace PlanDraft

/-- A draft that was made by adding the tests of these demands. -/
inductive Built (column : String) (read : String → Option Binary64) :
    List Demand → PlanDraft → Prop
  | empty : Built column read [] PlanDraft.empty
  | add {ds d dm test notices e} : Built column read ds d → dm.test? read = some test →
      (∃ o, dm.Declares o) → (∀ o, dm.Declares o ↔ ∃ n ∈ notices, n.1 = o) →
      (∀ n ∈ notices, n.2.rule = dm.name ∧ n.2.kind = dm.kind) →
      d.add column dm.width test notices = .ok e → Built column read (ds ++ [dm]) e

variable {column : String} {read : String → Option Binary64} {ds : List Demand} {d e : PlanDraft}

private theorem Built.addOne (h : Built column read ds d) {dm : Demand} {test : Test}
    {message : String} (ht : dm.test? read = some test) (hl : ∀ check, dm ≠ .locale check)
    (he : d.addOne column test dm.name dm.kind message = .ok e) :
    Built column read (ds ++ [dm]) e := by
  have h0 := Demand.declares_zero hl
  have hw : dm.width = 1 := by
    cases dm with
    | locale check => exact absurd rfl (hl check)
    | present | form | rule => rfl
  have hd (o : UInt8) : dm.Declares o ↔ o = 0 := by
    cases dm with
    | locale check => exact absurd rfl (hl check)
    | present | form | rule => exact .rfl
  have he : d.add column dm.width test [(0, ⟨dm.name, dm.kind, message⟩)] = .ok e := by rwa [hw]
  refine h.add ht ⟨0, h0⟩ (fun o => ?_) (fun n hn => ?_) he
  · simp [hd, eq_comm]
  · rw [List.mem_singleton.mp hn]
    exact ⟨rfl, rfl⟩

end PlanDraft

namespace ColumnSpec
variable {c : ColumnSpec} {schemaLocale : Option String} {source : LocaleSource}
  {read : String → Option Binary64} {ds : List Demand} {d e : PlanDraft}

open PlanDraft (Built)

theorem addRule_of_not_isAboutValues {r : Rule} (h : r.isAboutValues = false) :
    c.addRule read d r = .ok d := by
  cases r <;> first | rfl | cases h

theorem addRule_eq_ok {r : Rule} (hr : r.isAboutValues = true)
    (h : c.addRule read d r = .ok e) :
    ∃ test message, (Demand.rule r).test? read = some test ∧
      d.addOne c.name test r.name r.kind message = .ok e := by
  cases r with
  | required | unique | custom => cases hr
  | min | max =>
    obtain ⟨_, _, h⟩ := bind_eq_ok.mp h
    exact ⟨_, _, rfl, h⟩
  | minLength | maxLength => exact ⟨_, _, rfl, h⟩
  | pattern text =>
    simp only [addRule] at h
    split at h
    · rename_i p hp
      exact ⟨_, _, by simp [Demand.test?, hp], h⟩
    · cases h
  | oneOf | email =>
    simp only [addRule] at h
    split at h
    · first | exact ⟨_, _, rfl, h⟩ | cases h
    · first | exact ⟨_, _, rfl, h⟩ | cases h

private theorem built_addRules {rules : List Rule} (hd : Built c.name read ds d)
    (h : rules.foldlM (c.addRule read) d = .ok e) :
    Built c.name read (ds ++ (rules.filter Rule.isAboutValues).map .rule) e := by
  induction rules generalizing ds d with
  | nil =>
    cases h
    simpa using hd
  | cons r rs ih =>
    rw [List.foldlM_cons, bind_eq_ok] at h
    obtain ⟨d', hr, h⟩ := h
    cases hv : r.isAboutValues with
    | false =>
      rw [addRule_of_not_isAboutValues hv] at hr
      cases hr
      simpa [hv] using ih hd h
    | true =>
      obtain ⟨test, message, ht, hr⟩ := addRule_eq_ok hv hr
      simpa [hv] using ih (hd.addOne ht (by simp) hr) h

private theorem localeCheck?_eq_ok {base : UInt8} {check : Option LocaleCheck}
    (hb : base = if c.rules.any Rule.isRequired then 2 else 1)
    (h : c.localeCheck? (c.locale.or schemaLocale) source base = .ok check) :
    check = c.ownCheck? schemaLocale source ∧ ∀ k, check = some k → k.faults ≠ [] := by
  unfold ownCheck?
  rw [← hb]
  unfold localeCheck? at h
  split at h
  · rename_i hl
    cases h
    simp [hl]
  · rename_i l hl
    rw [hl]
    split at h
    · rename_i ht
      cases h
      simp_all
    · rename_i ht
      split at h
      · cases h
      · rename_i k hk
        split at h
        · cases h
        · cases h
          simp_all

private theorem built_addType {check : Option LocaleCheck} (hd : Built c.name read ds d)
    (hf : ∀ k, check = some k → k.faults ≠ []) (h : c.addType check d = .ok e) :
    Built c.name read (ds ++ c.typeDemands check) e := by
  unfold addType at h
  cases check with
  | some k =>
    obtain ⟨f, hk⟩ := List.exists_mem_of_ne_nil _ (hf k rfl)
    refine hd.add rfl ⟨f.offset, f, hk, rfl⟩ (fun o => ?_) (fun n hn => ?_) h
    · simp [Demand.Declares, LocaleCheck.Declares]
    · obtain ⟨g, _, rfl⟩ := List.mem_map.mp hn
      exact ⟨rfl, rfl⟩
  | none =>
    simp only at h
    unfold typeDemands
    cases hp : PlainForm.ofType? c.cellType with
    | none =>
      rw [hp] at h
      cases h
      simpa using hd
    | some form =>
      rw [hp] at h
      have ht : (Demand.form form).test? read = some (.form form) := rfl
      exact hd.addOne ht (by simp) h

theorem plan_eq (c : ColumnSpec) (schemaLocale : Option String) (source : LocaleSource) :
    c.plan schemaLocale source = ((if c.rules.any Rule.isRequired then
        PlanDraft.empty.addOne c.name .required "required" .required "This field is required"
      else .ok PlanDraft.empty) >>= fun d => do
        let check ← c.localeCheck? (c.locale.or schemaLocale) source d.next
        let d ← c.addType check d
        let d ← c.rules.foldlM (c.addRule (c.numberReader check)) d
        if Finding.customLimit < (c.rules.filterMap Rule.custom?).length then
          .error (.tooManyCustomRules c.name (c.rules.filterMap Rule.custom?).length)
        else
          .ok ⟨c.name, c.cellType, c.locale.or schemaLocale, d.tests, d.notices,
            c.rules.any Rule.isRequired, c.rules.any Rule.isUnique,
            c.rules.filterMap Rule.custom?⟩) := by
  unfold plan
  cases c.rules.any Rule.isRequired <;> rfl

def typeDraft (c : ColumnSpec) (schemaLocale : Option String) (source : LocaleSource) :
    Except PlanError PlanDraft := do
  let d ← if c.rules.any Rule.isRequired then
      PlanDraft.empty.addOne c.name .required "required" .required "This field is required"
    else .ok PlanDraft.empty
  let check ← c.localeCheck? (c.locale.or schemaLocale) source d.next
  c.addType check d

private theorem typeDraft_eq_ok {check : Option LocaleCheck}
    (h₁ : (if c.rules.any Rule.isRequired then
        PlanDraft.empty.addOne c.name .required "required" .required "This field is required"
      else .ok PlanDraft.empty) = .ok d)
    (hc : c.localeCheck? (c.locale.or schemaLocale) source d.next = .ok check)
    (h₂ : c.addType check d = .ok e) : c.typeDraft schemaLocale source = .ok e := by
  unfold typeDraft
  cases hr : c.rules.any Rule.isRequired <;> rw [hr] at h₁ <;> cases h₁
  all_goals exact bind_eq_ok.mpr ⟨_, rfl, bind_eq_ok.mpr ⟨check, hc, h₂⟩⟩

/-- A plan is the draft of presence and the type with the rules behind it, and the custom rules. -/
theorem drafts_of_plan {p : ColumnPlan} (h : c.plan schemaLocale source = .ok p) :
    ∃ d₀ d, c.typeDraft schemaLocale source = .ok d₀ ∧
      c.rules.foldlM (c.addRule (c.reader schemaLocale source)) d₀ = .ok d ∧
      Built c.name (c.reader schemaLocale source) (c.demands schemaLocale source) d ∧
      (c.rules.filterMap Rule.custom?).length ≤ Finding.customLimit ∧
      p = ⟨c.name, c.cellType, c.locale.or schemaLocale, d.tests, d.notices,
        c.rules.any Rule.isRequired, c.rules.any Rule.isUnique, c.rules.filterMap Rule.custom?⟩ := by
  rw [plan_eq] at h
  simp only [bind_eq_ok] at h
  obtain ⟨d₁, h₁, check, hc, d₂, h₂, d₃, h₃, h⟩ := h
  have first : d₁.next = (if c.rules.any Rule.isRequired then 2 else 1) ∧
      Built c.name (c.numberReader check)
        (if c.rules.any Rule.isRequired then [.present] else []) d₁ := by
    cases hr : c.rules.any Rule.isRequired with
    | true =>
      rw [hr] at h₁
      have ht : Demand.present.test? (c.numberReader check) = some .required := rfl
      exact ⟨by cases h₁; rfl, Built.empty.addOne ht (by simp) h₁⟩
    | false =>
      rw [hr] at h₁
      cases h₁
      exact ⟨rfl, .empty⟩
  have htype := typeDraft_eq_ok h₁ hc h₂
  obtain ⟨rfl, hf⟩ := localeCheck?_eq_ok first.1 hc
  refine ⟨d₂, d₃, htype, h₃, built_addRules (built_addType first.2 hf h₂) h₃, ?_⟩
  split at h
  · cases h
  · cases h
    exact ⟨Nat.le_of_not_lt ‹_›, rfl⟩

/-- What a column's plan is made of: a draft with the demands of the column, and its custom rules. -/
theorem plan_eq_ok {p : ColumnPlan} (h : c.plan schemaLocale source = .ok p) :
    ∃ d, Built c.name (c.reader schemaLocale source) (c.demands schemaLocale source) d ∧
      (c.rules.filterMap Rule.custom?).length ≤ Finding.customLimit ∧
      p = ⟨c.name, c.cellType, c.locale.or schemaLocale, d.tests, d.notices,
        c.rules.any Rule.isRequired, c.rules.any Rule.isUnique, c.rules.filterMap Rule.custom?⟩ := by
  obtain ⟨_, d, _, _, hplan⟩ := drafts_of_plan h
  exact ⟨d, hplan⟩

end ColumnSpec

def Demand.span : List Demand → Nat
  | [] => 0
  | dm :: ds => dm.width + span ds

namespace Demand

@[simp] theorem span_nil : span [] = 0 := rfl

@[simp] theorem span_cons (dm : Demand) (ds : List Demand) : span (dm :: ds) = dm.width + span ds :=
  rfl

@[simp] theorem span_append (ds es : List Demand) : span (ds ++ es) = span ds + span es := by
  induction ds with
  | nil => simp
  | cons dm ds ih => simp [ih, Nat.add_assoc]

/-- A code at a declared offset of a demand, the demands before it having theirs below. -/
def HasCode (ds : List Demand) (dm : Demand) (k : UInt8) : Prop :=
  ∃ before after o, ds = before ++ dm :: after ∧ dm.Declares o ∧
    k.toNat = 1 + span before + o.toNat

private theorem HasCode.append {ds : List Demand} {dm : Demand} {k : UInt8} (h : HasCode ds dm k)
    (es : List Demand) : HasCode (ds ++ es) dm k := by
  obtain ⟨before, after, o, rfl, ho, hk⟩ := h
  exact ⟨before, after ++ es, o, by simp, ho, hk⟩

theorem HasCode.bounds {ds : List Demand} {dm : Demand} {k : UInt8} (h : HasCode ds dm k) :
    1 ≤ k.toNat ∧ k.toNat ≤ span ds := by
  obtain ⟨before, after, o, rfl, ho, hk⟩ := h
  have := lt_width ho
  simp only [span_append, span_cons]
  omega

private theorem hasCode_append_singleton {ds : List Demand} {dm dm' : Demand} {k : UInt8} :
    HasCode (ds ++ [dm']) dm k ↔
      HasCode ds dm k ∨ dm = dm' ∧ ∃ o, dm.Declares o ∧ k.toNat = 1 + span ds + o.toNat := by
  constructor
  · rintro ⟨before, after, o, he, ho, hk⟩
    rcases List.eq_nil_or_concat after with rfl | ⟨after, last, rfl⟩
    · obtain ⟨rfl, hd⟩ := List.append_inj' he rfl
      cases hd
      exact .inr ⟨rfl, o, ho, hk⟩
    · rw [List.concat_eq_append, ← List.cons_append, ← List.append_assoc] at he
      exact .inl ⟨before, after, o, (List.append_inj' he rfl).1, ho, hk⟩
  · rintro (h | ⟨rfl, o, ho, hk⟩)
    · exact h.append _
    · exact ⟨ds, [], o, rfl, ho, hk⟩

end Demand

/-- Tests for demands, with codes that run on from a first one, one band behind the other. -/
inductive Laid (read : String → Option Binary64) : Nat → List Demand → List CodedTest → Prop
  | nil {n} : Laid read n [] []
  | cons {n dm ds t ts} : dm.test? read = some t.test → (∃ o, dm.Declares o) → t.code.toNat = n →
      Laid read (n + dm.width) ds ts → Laid read n (dm :: ds) (t :: ts)

private theorem Laid.snoc {read : String → Option Binary64} {n : Nat} {ds : List Demand}
    {ts : List CodedTest} {dm : Demand} {t : CodedTest} (h : Laid read n ds ts)
    (ht : dm.test? read = some t.test) (ho : ∃ o, dm.Declares o)
    (hc : t.code.toNat = n + Demand.span ds) : Laid read n (ds ++ [dm]) (ts ++ [t]) := by
  induction h with
  | nil => exact .cons ht ho hc .nil
  | cons h1 h2 h3 _ ih => exact .cons h1 h2 h3 (ih (by simpa [Nat.add_assoc] using hc))

namespace PlanDraft

private theorem getElem?_insertAll_of_forall_ne {base k : UInt8} :
    ∀ (notices : List (UInt8 × Notice)) (m : Std.TreeMap UInt8 Notice),
      (∀ n ∈ notices, base + n.1 ≠ k) →
      (notices.foldl (fun m n => m.insert (base + n.1) n.2) m)[k]? = m[k]?
  | [], _, _ => rfl
  | n :: ns, m, h => by
    rw [List.foldl_cons, getElem?_insertAll_of_forall_ne ns _
      fun x hx => h x (List.mem_cons_of_mem _ hx), Std.TreeMap.getElem?_insert]
    simp [h n List.mem_cons_self]

private theorem getElem?_insertAll_of_exists {base k : UInt8} :
    ∀ (notices : List (UInt8 × Notice)) (m : Std.TreeMap UInt8 Notice),
      (∃ n ∈ notices, base + n.1 = k) →
      ∃ n ∈ notices, (notices.foldl (fun m n => m.insert (base + n.1) n.2) m)[k]? = some n.2
  | [], _, h => by simp at h
  | n :: ns, m, h => by
    rw [List.foldl_cons]
    -- a notice further behind takes the place of this one
    by_cases hs : ∃ x ∈ ns, base + x.1 = k
    · obtain ⟨x, hx, he⟩ := getElem?_insertAll_of_exists ns (m.insert (base + n.1) n.2) hs
      exact ⟨x, List.mem_cons_of_mem _ hx, he⟩
    · obtain ⟨x, hx, hk⟩ := h
      rcases List.mem_cons.mp hx with rfl | hx
      · refine ⟨x, List.mem_cons_self, ?_⟩
        rw [getElem?_insertAll_of_forall_ne ns _ fun y hy he => hs ⟨y, hy, he⟩,
          Std.TreeMap.getElem?_insert]
        simp [hk]
      · exact absurd ⟨x, hx, hk⟩ hs

/-- The numbering of a draft: the codes of its demands run from 1 without gaps, and exactly the codes
at declared offsets have a notice, which is of their demand. -/
structure Numbered (read : String → Option Binary64) (ds : List Demand) (d : PlanDraft) :
    Prop where
  laid : Laid read 1 ds d.tests
  next_eq : d.next.toNat = 1 + Demand.span ds
  span_le : Demand.span ds ≤ 200
  notice_of_hasCode : ∀ dm k, Demand.HasCode ds dm k →
    ∃ n, d.notices[k]? = some n ∧ n.rule = dm.name ∧ n.kind = dm.kind
  hasCode_of_notice : ∀ k n, d.notices[k]? = some n → ∃ dm, Demand.HasCode ds dm k

theorem add_eq_ok {d e : PlanDraft} {column : String} {width : Nat} {test : Test}
    {notices : List (UInt8 × Notice)} (h : d.add column width test notices = .ok e) :
    d.next.toNat + width ≤ 201 ∧ e.next = d.next + UInt8.ofNat width ∧
      e.tests = d.tests ++ [⟨test, d.next⟩] ∧
      e.notices = notices.foldl (fun m n => m.insert (d.next + n.1) n.2) d.notices := by
  unfold add at h
  split at h
  · cases h
  · rename_i hr
    have hr : ¬ 200 < d.next.toNat + width - 1 := hr
    cases h
    exact ⟨by omega, rfl, rfl, rfl⟩

private theorem Numbered.exists_code_iff {read : String → Option Binary64} {ds : List Demand}
    {d : PlanDraft} {dm : Demand} {notices : List (UInt8 × Notice)} (h : d.Numbered read ds)
    (hroom : d.next.toNat + dm.width ≤ 201) (hoff : ∀ o, dm.Declares o ↔ ∃ n ∈ notices, n.1 = o)
    (k : UInt8) : (∃ n ∈ notices, d.next + n.1 = k) ↔
      ∃ o, dm.Declares o ∧ k.toNat = 1 + Demand.span ds + o.toNat := by
  have hcode (o : UInt8) (hd : dm.Declares o) :
      (d.next + o).toNat = 1 + Demand.span ds + o.toNat := by
    have := Demand.lt_width hd
    rw [UInt8.toNat_add, Nat.mod_eq_of_lt (by omega), h.next_eq]
  constructor
  · rintro ⟨n, hmem, rfl⟩
    have hd := (hoff n.1).mpr ⟨n, hmem, rfl⟩
    exact ⟨n.1, hd, hcode n.1 hd⟩
  · rintro ⟨o, hd, hk⟩
    obtain ⟨n, hmem, rfl⟩ := (hoff o).mp hd
    exact ⟨n, hmem, UInt8.toNat_inj.mp ((hcode _ hd).trans hk.symm)⟩

private theorem Numbered.add {read : String → Option Binary64} {ds : List Demand}
    {d e : PlanDraft} {dm : Demand} {test : Test} {column : String}
    {notices : List (UInt8 × Notice)} (h : d.Numbered read ds) (ht : dm.test? read = some test)
    (ho : ∃ o, dm.Declares o) (hoff : ∀ o, dm.Declares o ↔ ∃ n ∈ notices, n.1 = o)
    (hname : ∀ n ∈ notices, n.2.rule = dm.name ∧ n.2.kind = dm.kind)
    (he : d.add column dm.width test notices = .ok e) : e.Numbered read (ds ++ [dm]) := by
  obtain ⟨hroom, hnext, htests, hnotices⟩ := add_eq_ok he
  have hn := h.next_eq
  have hnew := h.exists_code_iff hroom hoff
  refine ⟨?laid, ?next, ?room, fun dm' k hk => ?noticed, fun k n hk => ?coded⟩
  case laid =>
    rw [htests]
    exact h.laid.snoc ht ho hn
  case next =>
    rw [hnext, UInt8.toNat_add, UInt8.toNat_ofNat', Demand.span_append, Demand.span_cons,
      Demand.span_nil]
    omega
  case room =>
    rw [Demand.span_append, Demand.span_cons, Demand.span_nil]
    omega
  case noticed =>
    rw [hnotices]
    rcases Demand.hasCode_append_singleton.mp hk with hold | ⟨rfl, hlast⟩
    · have hne : ∀ n ∈ notices, d.next + n.1 ≠ k := by
        intro n hmem he
        obtain ⟨o, _, hko⟩ := (hnew k).mp ⟨n, hmem, he⟩
        have := hold.bounds
        omega
      rw [getElem?_insertAll_of_forall_ne notices _ hne]
      exact h.notice_of_hasCode dm' k hold
    · obtain ⟨n, hmem, hget⟩ :=
        getElem?_insertAll_of_exists notices d.notices ((hnew k).mpr hlast)
      exact ⟨n.2, hget, hname n hmem⟩
  case coded =>
    by_cases hn : ∃ n ∈ notices, d.next + n.1 = k
    · exact ⟨dm, Demand.hasCode_append_singleton.mpr (.inr ⟨rfl, (hnew k).mp hn⟩)⟩
    · rw [hnotices, getElem?_insertAll_of_forall_ne notices _ fun n hmem he => hn ⟨n, hmem, he⟩]
        at hk
      obtain ⟨dm', hc⟩ := h.hasCode_of_notice k n hk
      exact ⟨dm', hc.append [dm]⟩

theorem Built.numbered {column : String} {read : String → Option Binary64} {ds : List Demand}
    {d : PlanDraft} (h : Built column read ds d) : d.Numbered read ds := by
  induction h with
  | empty =>
    exact ⟨.nil, rfl, Nat.zero_le _, fun dm k ⟨before, after, o, he, _⟩ => by simp at he,
      fun k n hk => by simp [PlanDraft.empty] at hk⟩
  | add _ ht ho hoff hname he ih => exact ih.add ht ho hoff hname he

end PlanDraft
end TableAudit
