import Mathlib.Data.List.Forall2
import TableAudit.Plan.Schema
import TableAudit.Proofs.Plan.Layout

/-! Planning preserves what the description of a column means. -/
namespace TableAudit

/-- The code at which the first of the demands that a value does not meet shows its fault. -/
def Demand.FirstFault (read : String → Option Binary64) (ds : List Demand) (value : String)
    (dm : Demand) (k : UInt8) : Prop :=
  ∃ before after o, ds = before ++ dm :: after ∧ (∀ b ∈ before, b.Met read value) ∧
    ¬ dm.Met read value ∧ dm.Declares o ∧ dm.FaultAt value o ∧
    k.toNat = 1 + Demand.span before + o.toNat

namespace Laid
variable {read : String → Option Binary64} {n : Nat} {ds : List Demand} {ts : List CodedTest}
  {value : String}

theorem findSome?_eq_none_iff (h : Laid read n ds ts) :
    ts.findSome? (·.fault? value) = none ↔ ∀ dm ∈ ds, dm.Met read value := by
  induction h with
  | nil => simp
  | @cons n dm ds t ts ht _ _ _ ih =>
    rw [List.findSome?_eq_none_iff] at ih ⊢
    rw [List.forall_mem_cons, List.forall_mem_cons, ih,
      Demand.fault?_eq_none_iff ht t.code value]

private theorem findSome?_eq_some (h : Laid read n ds ts) (hn : n + Demand.span ds ≤ 256)
    {k : UInt8} (hk : ts.findSome? (·.fault? value) = some k) :
    ∃ before dm after o, ds = before ++ dm :: after ∧ (∀ b ∈ before, b.Met read value) ∧
      ¬ dm.Met read value ∧ dm.Declares o ∧ dm.FaultAt value o ∧
      k.toNat = n + Demand.span before + o.toNat := by
  induction h with
  | nil => cases hk
  | @cons n dm ds t ts ht hd hc _ ih =>
    rw [Demand.span_cons] at hn
    have hmet := Demand.fault?_eq_none_iff ht t.code value
    cases hf : t.fault? value with
    | some k' =>
      rw [List.findSome?_cons, hf] at hk
      cases hk
      obtain ⟨o, ho, hat, hk⟩ := Demand.fault?_eq_some ht (by omega) hd hf
      refine ⟨[], dm, ds, o, rfl, by simp, fun hm => ?_, ho, hat, by rw [hk, hc]; rfl⟩
      cases hf.symm.trans (hmet.mpr hm)
    | none =>
      rw [List.findSome?_cons, hf] at hk
      obtain ⟨before, dm', after, o, rfl, hbefore, hnot, ho, hat, hk⟩ := ih (by omega) hk
      refine ⟨dm :: before, dm', after, o, rfl, ?_, hnot, ho, hat, ?_⟩
      · exact List.forall_mem_cons.mpr ⟨hmet.mp hf, hbefore⟩
      · rw [hk, Demand.span_cons]
        omega

end Laid

namespace ColumnSpec
variable {c : ColumnSpec} {schemaLocale : Option String} {source : LocaleSource} {p : ColumnPlan}

theorem plan_numbered (h : c.plan schemaLocale source = .ok p) :
    ∃ d : PlanDraft, d.Numbered (c.reader schemaLocale source) (c.demands schemaLocale source) ∧
      p.tests = d.tests ∧ p.notices = d.notices := by
  obtain ⟨d, hb, _, rfl⟩ := plan_eq_ok h
  exact ⟨d, hb.numbered, rfl, rfl⟩

theorem fault?_eq_none_of_plan (h : c.plan schemaLocale source = .ok p) (value : String) :
    p.fault? value = none ↔
      ∀ dm ∈ c.demands schemaLocale source, dm.Met (c.reader schemaLocale source) value := by
  obtain ⟨d, hn, ht, _⟩ := plan_numbered h
  rw [ColumnPlan.fault?, ht]
  exact hn.laid.findSome?_eq_none_iff

/-- A fault is that of the first unmet demand; its code is one of the 200 and has a notice that names
the demand. -/
theorem fault?_eq_some_of_plan (h : c.plan schemaLocale source = .ok p) {value : String} {k : UInt8}
    (hk : p.fault? value = some k) :
    ∃ dm, Demand.FirstFault (c.reader schemaLocale source) (c.demands schemaLocale source) value dm k ∧
      1 ≤ k.toNat ∧ k.toNat ≤ 200 ∧
      ∃ n, p.notice? k = some n ∧ n.rule = dm.name ∧ n.kind = dm.kind := by
  obtain ⟨d, hn, ht, hnotices⟩ := plan_numbered h
  have hroom := hn.span_le
  rw [ColumnPlan.fault?, ht] at hk
  obtain ⟨before, dm, after, o, hds, hbefore, hnot, ho, hat, hcode⟩ :=
    hn.laid.findSome?_eq_some (by omega) hk
  have hhas : Demand.HasCode (c.demands schemaLocale source) dm k :=
    ⟨before, after, o, hds, ho, hcode⟩
  have hbounds := hhas.bounds
  refine ⟨dm, ⟨before, after, o, hds, hbefore, hnot, ho, hat, hcode⟩, hbounds.1, by omega, ?_⟩
  rw [ColumnPlan.notice?, hnotices]
  exact hn.notice_of_hasCode dm k hhas

end ColumnSpec

namespace ColumnSpec
variable {c : ColumnSpec} {schemaLocale : Option String} {source : LocaleSource} {p : ColumnPlan}

private theorem met_empty {read : String → Option Binary64} {dm : Demand} (h : dm ≠ .present) :
    dm.Met read "" := by
  cases dm <;> simp [Demand.Met] at h ⊢

private theorem not_present_of_mem_typeDemands {check : Option LocaleCheck} {dm : Demand}
    (h : dm ∈ c.typeDemands check) : dm ≠ .present := by
  rintro rfl
  cases check <;> simp [typeDemands] at h

private theorem present_mem_demands :
    .present ∈ c.demands schemaLocale source ↔ c.rules.any Rule.isRequired = true := by
  have ht : Demand.present ∉ c.typeDemands (c.ownCheck? schemaLocale source) := fun h =>
    not_present_of_mem_typeDemands h rfl
  rw [mem_demands]
  simp [ht]

private theorem fault?_empty_of_plan (h : c.plan schemaLocale source = .ok p) :
    p.fault? "" = if c.rules.any Rule.isRequired then some 1 else none := by
  cases hk : p.fault? "" with
  | none =>
    have hall := (fault?_eq_none_of_plan h "").mp hk
    rw [if_neg]
    intro hr
    exact hall .present (present_mem_demands.mpr hr) rfl
  | some k =>
    obtain ⟨dm, ⟨before, after, o, hds, hbefore, hnot, ho, _, hcode⟩, _⟩ :=
      fault?_eq_some_of_plan h hk
    have hdm : dm = .present := Classical.not_not.mp fun hne => hnot (met_empty hne)
    subst hdm
    have hr := present_mem_demands.mp (hds ▸ List.mem_append_right before List.mem_cons_self)
    rw [if_pos hr]
    -- presence is demanded first, so no demand before it can be met
    have hnil : before = [] := by
      cases before with
      | nil => rfl
      | cons b bs =>
        simp only [demands, hr, if_true, List.cons_append, List.cons.injEq] at hds
        exact absurd rfl (hds.1 ▸ hbefore b List.mem_cons_self)
    subst hnil
    rw [show o = 0 from ho] at hcode
    exact congrArg some (UInt8.toNat_inj.mp hcode)

end ColumnSpec

/-- What every plan of a column keeps to: a fault has a code of a check, which has a notice, and there
is a byte for each custom rule. -/
structure ColumnPlan.Sound (p : ColumnPlan) : Prop where
  bounds : ∀ {value k}, p.fault? value = some k → 1 ≤ k.toNat ∧ k.toNat ≤ 200
  noticed : ∀ {value k}, p.fault? value = some k → ∃ n, p.notice? k = some n
  customRules : p.customRules.length ≤ 50

def AuditPlan.Sound (p : AuditPlan) : Prop := ∀ column ∈ p.columns, column.Sound

namespace ColumnPlan
variable {p : ColumnPlan} {value : String}

theorem Sound.validate_of_fault? (h : p.Sound) {k : UInt8} (hk : p.fault? value = some k) :
    p.validate value = k ∧ k ≠ 0 := by
  refine ⟨by rw [validate, hk, Option.getD_some], ?_⟩
  rintro rfl
  exact absurd (h.bounds hk).1 (by decide)

theorem Sound.validate_eq_zero_iff (h : p.Sound) :
    p.validate value = 0 ↔ p.fault? value = none := by
  cases hk : p.fault? value with
  | none => simp [validate, hk, Finding.clear]
  | some k => simp [h.validate_of_fault? hk]

end ColumnPlan

namespace ColumnSpec
variable {c : ColumnSpec} {schemaLocale : Option String} {source : LocaleSource} {p : ColumnPlan}

theorem plan_sound (h : c.plan schemaLocale source = .ok p) : p.Sound where
  bounds hk := by
    obtain ⟨_, _, h1, h200, _⟩ := fault?_eq_some_of_plan h hk
    exact ⟨h1, h200⟩
  noticed hk := by
    obtain ⟨_, _, _, _, n, hn, _⟩ := fault?_eq_some_of_plan h hk
    exact ⟨n, hn⟩
  customRules := by
    obtain ⟨d, _, hl, rfl⟩ := plan_eq_ok h
    exact hl

private def countSpec : ColumnSpec := ⟨"count", .integer, [.minLength 2, .required], none, []⟩

end ColumnSpec

namespace Schema

private theorem mapM_eq_ok {α β ε : Type} {f : α → Except ε β} {as : List α} {bs : List β} :
    as.mapM f = .ok bs ↔ List.Forall₂ (fun a b => f a = .ok b) as bs := by
  induction as generalizing bs with
  | nil => simp [pure, Except.pure, eq_comm]
  | cons a as ih =>
    simp only [List.mapM_cons, bind_eq_ok, List.forall₂_cons_left_iff, ih]
    constructor
    · rintro ⟨b, hb, bs', hbs, h⟩
      cases h
      exact ⟨b, bs', hb, hbs, rfl⟩
    · rintro ⟨b, bs', hb, hbs, rfl⟩
      exact ⟨b, hb, bs', hbs, rfl⟩

private theorem exists_of_mem_right {α β : Type} {R : α → β → Prop} {as : List α} {bs : List β}
    (h : List.Forall₂ R as bs) : ∀ b ∈ bs, ∃ a ∈ as, R a b := by
  induction h with
  | nil => simp
  | cons hab _ ih =>
    intro b hb
    rcases List.mem_cons.mp hb with rfl | hb
    · exact ⟨_, List.mem_cons_self, hab⟩
    · obtain ⟨a, ha, h⟩ := ih b hb
      exact ⟨a, List.mem_cons_of_mem _ ha, h⟩

/-- A schema's plan has the plans of its columns, in their order. -/
theorem plan_eq_ok {s : Schema} {source : LocaleSource} {p : AuditPlan} :
    s.plan source = .ok p ↔ s.checkNames = .ok () ∧
      List.Forall₂ (fun c q => c.plan s.locale source = .ok q) s.columns p.columns := by
  simp only [plan, bind_eq_ok, mapM_eq_ok]
  constructor
  · rintro ⟨u, hu, columns, hcolumns, h⟩
    cases h
    cases hs : s.checkNames with
    | error e => rw [hs] at hu; cases hu
    | ok u => exact ⟨rfl, hcolumns⟩
  · rintro ⟨hs, hcolumns⟩
    exact ⟨(), by rw [hs]; rfl, p.columns, hcolumns, rfl⟩

theorem exists_spec_of_mem {s : Schema} {source : LocaleSource} {p : AuditPlan}
    (h : s.plan source = .ok p) {q : ColumnPlan} (hq : q ∈ p.columns) :
    ∃ c ∈ s.columns, c.plan s.locale source = .ok q :=
  exists_of_mem_right (plan_eq_ok.mp h).2 q hq

theorem plan_sound {s : Schema} {source : LocaleSource} {p : AuditPlan}
    (h : s.plan source = .ok p) : p.Sound := by
  intro q hq
  obtain ⟨c, _, hc⟩ := exists_spec_of_mem h hq
  exact ColumnSpec.plan_sound hc

end Schema
end TableAudit
