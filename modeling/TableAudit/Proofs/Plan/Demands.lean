import Mathlib.Data.List.Basic
import TableAudit.Plan.Column

/-! What a column asks of its values, read from its description alone. The tests of its plan are
made from these demands, one for each and in their order. -/
namespace TableAudit

/-- What a column asks of a value. -/
inductive Demand where
  | present
  | form (f : PlainForm)
  | locale (check : LocaleCheck)
  | rule (r : Rule)

namespace Rule

def isAboutValues : Rule → Bool
  | required | unique | custom _ => false
  | _ => true

/-- Whether a value keeps a rule; a text that spells no number keeps every bound. -/
def Met (read : String → Option Binary64) (value : String) : Rule → Prop
  | min bound => ∀ x, read value = some x → x.lt bound = false
  | max bound => ∀ x, read value = some x → bound.lt x = false
  | minLength n => n.toNat ≤ value.length
  | maxLength n => value.length ≤ n.toNat
  | pattern text => ∃ p, Pattern.ofText? text = some p ∧ p.occursIn value.toList = true
  | oneOf values => value ∈ values
  | email => Pattern.email.occursIn value.toList = true
  | required | unique | custom _ => True

def kind : Rule → FindingKind
  | required => .required
  | min _ | max _ => .range
  | minLength _ | maxLength _ => .length
  | pattern _ => .pattern
  | oneOf _ => .choice
  | email => .email
  | unique => .unique
  | custom _ => .custom

end Rule

def LocaleCheck.Declares (check : LocaleCheck) (o : UInt8) : Prop :=
  ∃ f ∈ check.faults, f.offset = o

namespace Demand

/-- Whether a value is as demanded. The empty value lacks only presence. -/
def Met (read : String → Option Binary64) (value : String) : Demand → Prop
  | present => value ≠ ""
  | form f => value ≠ "" → f.accepts value = true
  | locale check => value ≠ "" → check.judge value = none
  | rule r => value ≠ "" → r.Met read value

def name : Demand → String
  | present => "required"
  | form _ | locale _ => "type"
  | rule r => r.name

def kind : Demand → FindingKind
  | present => .required
  | form _ | locale _ => .type
  | rule r => r.kind

def Declares : Demand → UInt8 → Prop
  | locale check, o => check.Declares o
  | _, o => o = 0

def width : Demand → Nat
  | locale check => ColumnSpec.widthOf check
  | _ => 1

/-- The offset under which the fault of a value is shown: the one that the check of a locale reports,
or its least declared one if it has not declared that. -/
def FaultAt (value : String) : Demand → UInt8 → Prop
  | locale check, o => ∃ q, check.judge value = some q ∧ check.Declares o ∧
      (o = q ∨ ¬ check.Declares q ∧ ∀ u, check.Declares u → o ≤ u)
  | _, o => o = 0

def test? (read : String → Option Binary64) : Demand → Option Test
  | present => some .required
  | form f => some (.form f)
  | locale check => some (.locale check (ColumnSpec.offsetsOf check))
  | rule (.min bound) => some (.atLeast bound read)
  | rule (.max bound) => some (.atMost bound read)
  | rule (.minLength n) => some (.minLength n)
  | rule (.maxLength n) => some (.maxLength n)
  | rule (.pattern text) => (Pattern.ofText? text).map .pattern
  | rule (.oneOf values) => some (.oneOf values)
  | rule .email => some .email
  | rule .required | rule .unique | rule (.custom _) => none

end Demand

namespace ColumnSpec

/-- The check of the locale that a column of a locale-dependent type has, its own before that of the
schema. It is told the code behind that of presence. -/
def ownCheck? (c : ColumnSpec) (schemaLocale : Option String) (source : LocaleSource) :
    Option LocaleCheck :=
  if c.cellType.isLocaleAware then
    (c.locale.or schemaLocale).bind fun l =>
      source.check? c.cellType l (if c.rules.any Rule.isRequired then 2 else 1)
  else none

def reader (c : ColumnSpec) (schemaLocale : Option String) (source : LocaleSource) :
    String → Option Binary64 :=
  c.numberReader (c.ownCheck? schemaLocale source)

def typeDemands (c : ColumnSpec) : Option LocaleCheck → List Demand
  | some check => [.locale check]
  | none => (PlainForm.ofType? c.cellType).toList.map .form

/-- Presence, then the type, then the rules about values in their order. -/
def demands (c : ColumnSpec) (schemaLocale : Option String) (source : LocaleSource) : List Demand :=
  (if c.rules.any Rule.isRequired then [.present] else []) ++
    c.typeDemands (c.ownCheck? schemaLocale source) ++
    (c.rules.filter Rule.isAboutValues).map .rule

theorem mem_demands {c : ColumnSpec} {schemaLocale : Option String} {source : LocaleSource}
    {dm : Demand} : dm ∈ c.demands schemaLocale source ↔
      dm = .present ∧ c.rules.any Rule.isRequired = true ∨
        dm ∈ c.typeDemands (c.ownCheck? schemaLocale source) ∨
          ∃ r ∈ c.rules, r.isAboutValues = true ∧ .rule r = dm := by
  simp only [demands, List.mem_append, List.mem_map, List.mem_filter, or_assoc, and_assoc]
  refine or_congr_left ?_
  split <;> simp_all

end ColumnSpec

namespace ColumnSpec

private theorem mem_offsetsOf {check : LocaleCheck} {o : UInt8} :
    o ∈ offsetsOf check ↔ check.Declares o := by
  simp only [offsetsOf, List.mem_filter, List.mem_map, List.mem_range, List.any_eq_true,
    decide_eq_true_eq, LocaleCheck.Declares, and_iff_right_iff_imp]
  intro _
  exact ⟨o.toNat, o.toNat_lt, UInt8.ofNat_toNat⟩

private theorem pairwise_offsetsOf (check : LocaleCheck) :
    (offsetsOf check).Pairwise (· < ·) := by
  apply List.Pairwise.filter
  rw [List.pairwise_map]
  apply List.pairwise_lt_range.imp_of_mem
  intro i j hi hj hij
  rw [List.mem_range] at hi hj
  rw [UInt8.lt_iff_toNat_lt, UInt8.toNat_ofNat', UInt8.toNat_ofNat', Nat.mod_eq_of_lt hi,
    Nat.mod_eq_of_lt hj]
  exact hij

private theorem headD_offsetsOf {check : LocaleCheck} {u : UInt8} (hu : check.Declares u) :
    check.Declares ((offsetsOf check).headD 0) ∧
      ∀ w, check.Declares w → (offsetsOf check).headD 0 ≤ w := by
  have hp := pairwise_offsetsOf check
  simp only [← mem_offsetsOf] at hu ⊢
  cases ho : offsetsOf check with
  | nil => simp [ho] at hu
  | cons a os =>
    rw [ho, List.pairwise_cons] at hp
    refine ⟨List.mem_cons_self, fun w hw => ?_⟩
    rcases List.mem_cons.mp hw with rfl | hw
    · exact UInt8.le_refl _
    · exact UInt8.le_of_lt (hp.1 w hw)

private theorem le_foldl_max (faults : List LocaleFault) (n : Nat) :
    n ≤ faults.foldl (fun n f => max n (f.offset.toNat + 1)) n ∧
      ∀ f ∈ faults, f.offset.toNat < faults.foldl (fun n f => max n (f.offset.toNat + 1)) n := by
  induction faults generalizing n with
  | nil => simp
  | cons f fs ih =>
    obtain ⟨hn, hf⟩ := ih (max n (f.offset.toNat + 1))
    rw [List.foldl_cons]
    refine ⟨by omega, fun g hg => ?_⟩
    rcases List.mem_cons.mp hg with rfl | hg
    · omega
    · exact hf g hg

private theorem lt_widthOf {check : LocaleCheck} {o : UInt8} (h : check.Declares o) :
    o.toNat < widthOf check := by
  obtain ⟨f, hf, rfl⟩ := h
  exact (le_foldl_max check.faults 0).2 f hf

private theorem foldl_max_eq (faults : List LocaleFault) (n : Nat) :
    faults.foldl (fun n f => max n (f.offset.toNat + 1)) n = n ∨
      ∃ f ∈ faults, faults.foldl (fun n f => max n (f.offset.toNat + 1)) n = f.offset.toNat + 1 := by
  induction faults generalizing n with
  | nil => exact .inl rfl
  | cons f fs ih =>
    rw [List.foldl_cons]
    rcases ih (max n (f.offset.toNat + 1)) with h | ⟨g, hg, h⟩
    · rw [h]
      rcases Nat.le_total n (f.offset.toNat + 1) with hle | hle
      · exact .inr ⟨f, List.mem_cons_self, Nat.max_eq_right hle⟩
      · exact .inl (Nat.max_eq_left hle)
    · exact .inr ⟨g, List.mem_cons_of_mem _ hg, h⟩

/-- A check that declares a fault takes the codes up to the largest declared offset. -/
theorem widthOf_eq {check : LocaleCheck} {u : UInt8} (hu : check.Declares u) :
    ∃ o, check.Declares o ∧ (∀ w, check.Declares w → w ≤ o) ∧ widthOf check = o.toNat + 1 := by
  rcases foldl_max_eq check.faults 0 with h | ⟨f, hf, h⟩
  · have hpos := lt_widthOf hu
    rw [widthOf, h] at hpos
    exact absurd hpos (Nat.not_lt_zero _)
  · refine ⟨f.offset, ⟨f, hf, rfl⟩, fun w hw => ?_, h⟩
    have hlt := lt_widthOf hw
    rw [widthOf, h] at hlt
    exact UInt8.le_iff_toNat_le.mpr (Nat.le_of_lt_succ hlt)

end ColumnSpec

namespace Demand
variable {read : String → Option Binary64} {dm : Demand} {test : Test}

theorem lt_width {o : UInt8} (h : dm.Declares o) : o.toNat < dm.width := by
  cases dm with
  | locale check => exact ColumnSpec.lt_widthOf h
  | present | form | rule => rw [show o = 0 from h]; exact Nat.one_pos

theorem declares_zero (h : ∀ check, dm ≠ .locale check) : dm.Declares 0 := by
  cases dm with
  | locale check => exact absurd rfl (h check)
  | present | form | rule => rfl

private theorem test?_eq_required_iff (h : dm.test? read = some test) :
    test = .required ↔ dm = .present := by
  cases dm with
  | present | form | locale => cases h; simp
  | rule r =>
    cases r with
    | pattern text =>
      obtain ⟨p, _, rfl⟩ := Option.map_eq_some_iff.mp h
      simp
    | _ => cases h <;> simp

theorem test?_eq_locale {check : LocaleCheck} {offsets : List UInt8}
    (h : dm.test? read = some (.locale check offsets)) :
    dm = .locale check ∧ offsets = ColumnSpec.offsetsOf check := by
  cases dm with
  | present | form => cases h
  | locale => cases h; exact ⟨rfl, rfl⟩
  | rule r =>
    cases r with
    | pattern text =>
      obtain ⟨p, _, hp⟩ := Option.map_eq_some_iff.mp h
      cases hp
    | _ => cases h

private theorem fault?_empty (h : dm.test? read = some test) (code : UInt8) :
    (CodedTest.mk test code).fault? "" = none ↔ dm ≠ .present := by
  rw [ne_eq, ← test?_eq_required_iff h]
  cases test <;> simp [CodedTest.fault?]

/-- A test finds a fault in the values that are not as demanded, and in no others. -/
theorem fault?_eq_none_iff (h : dm.test? read = some test) (code : UInt8) (value : String) :
    (CodedTest.mk test code).fault? value = none ↔ dm.Met read value := by
  by_cases hv : value = ""
  · subst hv
    rw [fault?_empty h]
    cases dm <;> simp [Met]
  · cases dm with
    | present | form | locale => cases h; simp [CodedTest.fault?, Met, hv]
    | rule r =>
      cases r with
      | pattern text =>
        obtain ⟨p, hp, rfl⟩ := Option.map_eq_some_iff.mp h
        simp [CodedTest.fault?, Met, Rule.Met, hv, hp]
      | min | max =>
        cases h
        simp [CodedTest.fault?, Met, Rule.Met, hv, Option.any_eq_false]
      | minLength | maxLength | oneOf | email =>
        cases h
        simp [CodedTest.fault?, Met, Rule.Met, hv]
      | required | unique | custom => cases h

private theorem eq_of_fault?_eq_some {code k : UInt8} {value : String}
    (hl : ∀ check offsets, test ≠ .locale check offsets)
    (hk : (CodedTest.mk test code).fault? value = some k) : k = code := by
  cases test with
  | locale check offsets => exact absurd rfl (hl check offsets)
  | _ =>
    simp only [CodedTest.fault?] at hk
    grind

private theorem toNat_localeCode {check : LocaleCheck} {code q : UInt8} {value : String}
    (hw : code.toNat + ColumnSpec.widthOf check ≤ 256) (hd : ∃ u, check.Declares u)
    (hq : check.judge value = some q) :
    ∃ o, check.Declares o ∧ (locale check).FaultAt value o ∧
      (CodedTest.localeCode code (ColumnSpec.offsetsOf check) q).toNat = code.toNat + o.toNat := by
  have fits (o : UInt8) (ho : check.Declares o) : code.toNat + o.toNat < 256 := by
    have := ColumnSpec.lt_widthOf ho
    omega
  unfold CodedTest.localeCode
  by_cases hc : check.Declares q
  · refine ⟨q, hc, ⟨q, hq, hc, .inl rfl⟩, ?_⟩
    simp only [List.contains_eq_mem, ColumnSpec.mem_offsetsOf, hc, decide_true, if_true, fits q hc]
    rw [UInt8.toNat_add, Nat.mod_eq_of_lt (fits q hc)]
  · obtain ⟨u, hu⟩ := hd
    obtain ⟨hl, hleast⟩ := ColumnSpec.headD_offsetsOf hu
    refine ⟨_, hl, ⟨q, hq, hl, .inr ⟨hc, hleast⟩⟩, ?_⟩
    simp only [List.contains_eq_mem, ColumnSpec.mem_offsetsOf, hc, decide_false, Bool.false_eq_true,
      if_false, fits _ hl, if_true]
    rw [UInt8.toNat_add, Nat.mod_eq_of_lt (fits _ hl)]

/-- The code of a fault lies among the codes of its demand, at the offset of the fault. -/
theorem fault?_eq_some {code k : UInt8} {value : String} (h : dm.test? read = some test)
    (hw : code.toNat + dm.width ≤ 256) (hd : ∃ u, dm.Declares u)
    (hk : (CodedTest.mk test code).fault? value = some k) :
    ∃ o, dm.Declares o ∧ dm.FaultAt value o ∧ k.toNat = code.toNat + o.toNat := by
  cases dm with
  | locale check =>
    cases h
    by_cases hv : value = ""
    · simp [CodedTest.fault?, hv] at hk
    · simp only [CodedTest.fault?, String.isEmpty_iff, hv, if_false, Option.map_eq_some_iff] at hk
      obtain ⟨q, hq, rfl⟩ := hk
      exact toNat_localeCode hw hd hq
  | present | form | rule =>
    have hl (check : LocaleCheck) (offsets : List UInt8) : test ≠ .locale check offsets := by
      rintro rfl
      exact Demand.noConfusion (test?_eq_locale h).1
    rw [eq_of_fault?_eq_some hl hk]
    exact ⟨0, rfl, rfl, rfl⟩

end Demand
end TableAudit
