import TableAudit.Proofs.Plan.Meaning

/-! The codes of a plan, read from its tests. Their bands lie one behind the other whatever the
check of a locale declares or reports. -/
namespace TableAudit

/-- The offsets at which a test has notices: the declared ones of a locale check, else its code
alone. -/
def Test.Declares : Test → UInt8 → Prop
  | .locale check _, o => check.Declares o
  | _, o => o = 0

/-- How many codes a test takes: one more than the largest declared offset of a locale check, else
one. -/
def Test.Takes : Test → Nat → Prop
  | .locale check _, n => ∃ o, check.Declares o ∧ (∀ u, check.Declares u → u ≤ o) ∧ n = o.toNat + 1
  | _, n => n = 1

def CodedTest.Owns (t : CodedTest) (k : Nat) : Prop :=
  ∃ n, t.test.Takes n ∧ t.code.toNat ≤ k ∧ k < t.code.toNat + n

/-- Tests with bands that lie one behind the other, from a first code to before a last one. -/
inductive Bands : Nat → List CodedTest → Nat → Prop
  | nil {n} : Bands n [] n
  | cons {n w last t ts} : t.code.toNat = n → t.test.Takes w → Bands (n + w) ts last →
      Bands n (t :: ts) last

private theorem Test.Takes.unique {test : Test} {m n : Nat} (hm : test.Takes m)
    (hn : test.Takes n) : m = n := by
  cases test with
  | locale check offsets =>
    obtain ⟨a, ha, hamax, rfl⟩ := hm
    obtain ⟨b, hb, hbmax, rfl⟩ := hn
    rw [UInt8.le_antisymm (hbmax a ha) (hamax b hb)]
  | _ => exact Eq.trans hm (Eq.symm hn)

private theorem Test.Takes.pos {test : Test} {n : Nat} (h : test.Takes n) : 0 < n := by
  cases test with
  | locale check offsets =>
    obtain ⟨o, _, _, rfl⟩ := h
    exact Nat.succ_pos _
  | _ => exact Nat.lt_of_lt_of_eq Nat.one_pos (Eq.symm h)

private theorem Test.Takes.lt_of_declares {test : Test} {n : Nat} {o : UInt8} (h : test.Takes n)
    (ho : test.Declares o) : o.toNat < n := by
  cases test with
  | locale check offsets =>
    obtain ⟨u, _, hmax, rfl⟩ := h
    exact Nat.lt_succ_of_le (UInt8.le_iff_toNat_le.mp (hmax o ho))
  | _ =>
    rw [show o = 0 from ho]
    exact h.pos

namespace Bands
variable {first last : Nat} {ts : List CodedTest}

private theorem first_le (h : Bands first ts last) : first ≤ last := by
  induction h with
  | nil => exact Nat.le_refl _
  | cons _ _ _ ih => omega

private theorem toNat_head (h : Bands first ts last) {t : CodedTest} (ht : ts.head? = some t) :
    t.code.toNat = first := by
  cases h with
  | nil => cases ht
  | cons hc _ _ =>
    cases ht
    exact hc

private theorem of_mem (h : Bands first ts last) {t : CodedTest} (ht : t ∈ ts) :
    first ≤ t.code.toNat ∧ ∃ n, t.test.Takes n ∧ t.code.toNat + n ≤ last := by
  induction h with
  | nil => cases ht
  | cons hc hw hts ih =>
    rcases List.mem_cons.mp ht with rfl | ht
    · have := hts.first_le
      exact ⟨Nat.le_of_eq hc.symm, _, hw, by omega⟩
    · obtain ⟨hle, hband⟩ := ih ht
      exact ⟨by omega, hband⟩

private theorem pairwise_le (h : Bands first ts last) :
    ts.Pairwise fun t u => ∀ n, t.test.Takes n → t.code.toNat + n ≤ u.code.toNat := by
  induction h with
  | nil => exact .nil
  | cons hc hw hts ih =>
    refine .cons (fun u hu n hn => ?_) ih
    rw [hn.unique hw, hc]
    exact (hts.of_mem hu).1

private theorem pairwise_lt (h : Bands first ts last) : ts.Pairwise fun t u => t.code < u.code := by
  refine h.pairwise_le.imp_of_mem fun {t u} ht _ hle => ?_
  obtain ⟨_, n, hn, _⟩ := h.of_mem ht
  have := hn.pos
  have := hle n hn
  exact UInt8.lt_iff_toNat_lt.mpr (by omega)

private theorem pairwise_disjoint (h : Bands first ts last) :
    ts.Pairwise fun t u => ∀ k, t.Owns k → ¬ u.Owns k := by
  refine h.pairwise_le.imp fun {t u} hle k ⟨n, hn, _, hk⟩ ⟨_, _, hk', _⟩ => ?_
  have := hle n hn
  omega

theorem owns_bounds (h : Bands first ts last) {t : CodedTest} (ht : t ∈ ts) {k : Nat}
    (hk : t.Owns k) : first ≤ k ∧ k < last := by
  obtain ⟨hle, n, hn, hlast⟩ := h.of_mem ht
  obtain ⟨m, hm, hcode, hlt⟩ := hk
  rw [hm.unique hn] at hlt
  omega

end Bands

namespace Demand
variable {read : String → Option Binary64} {dm : Demand} {test : Test}

private theorem declares_iff (h : dm.test? read = some test) (o : UInt8) :
    test.Declares o ↔ dm.Declares o := by
  cases dm with
  | present | form | locale => cases h; exact .rfl
  | rule r =>
    cases r with
    | pattern text =>
      obtain ⟨p, _, rfl⟩ := Option.map_eq_some_iff.mp h
      exact .rfl
    | required | unique | custom => cases h
    | _ => cases h; exact .rfl

private theorem takes_width (h : dm.test? read = some test) (hd : ∃ o, dm.Declares o) :
    test.Takes dm.width := by
  cases dm with
  | locale check =>
    cases h
    obtain ⟨u, hu⟩ := hd
    exact ColumnSpec.widthOf_eq hu
  | present | form => cases h; rfl
  | rule r =>
    cases r with
    | pattern text =>
      obtain ⟨p, _, rfl⟩ := Option.map_eq_some_iff.mp h
      rfl
    | required | unique | custom => cases h
    | _ => cases h; rfl

end Demand

namespace Laid
variable {read : String → Option Binary64} {n : Nat} {ds : List Demand} {ts : List CodedTest}

theorem bands (h : Laid read n ds ts) : Bands n ts (n + Demand.span ds) := by
  induction h with
  | nil => exact .nil
  | @cons n dm ds t ts ht hd hc _ ih =>
    rw [Demand.span_cons, ← Nat.add_assoc]
    exact .cons hc (Demand.takes_width ht hd) ih

private theorem split_tests {pre post : List CodedTest} (h : Laid read n ds (pre ++ post)) :
    ∃ before after, ds = before ++ after ∧ Laid read n before pre ∧
      Laid read (n + Demand.span before) after post := by
  induction pre generalizing n ds with
  | nil => exact ⟨[], ds, rfl, .nil, h⟩
  | cons t pre ih =>
    cases h with
    | @cons _ dm ds _ _ ht hd hc hrest =>
      obtain ⟨before, after, rfl, hpre, hpost⟩ := ih hrest
      refine ⟨dm :: before, after, rfl, .cons ht hd hc hpre, ?_⟩
      rwa [Demand.span_cons, ← Nat.add_assoc]

private theorem split_demands {before after : List Demand} (h : Laid read n (before ++ after) ts) :
    ∃ pre post, ts = pre ++ post ∧ Laid read n before pre ∧
      Laid read (n + Demand.span before) after post := by
  induction before generalizing n ts with
  | nil => exact ⟨[], ts, rfl, .nil, h⟩
  | cons dm before ih =>
    cases h with
    | @cons _ _ _ t ts ht hd hc hrest =>
      obtain ⟨pre, post, rfl, hpre, hpost⟩ := ih hrest
      refine ⟨t :: pre, post, rfl, .cons ht hd hc hpre, ?_⟩
      rwa [Demand.span_cons, ← Nat.add_assoc]

private theorem exists_demand (h : Laid read n ds ts) {pre post : List CodedTest} {t : CodedTest}
    (hts : ts = pre ++ t :: post) :
    ∃ before dm after, ds = before ++ dm :: after ∧ Laid read n before pre ∧
      dm.test? read = some t.test ∧ (∃ o, dm.Declares o) ∧
      t.code.toNat = n + Demand.span before := by
  subst hts
  obtain ⟨before, _, rfl, hpre, hpost⟩ := h.split_tests
  cases hpost with
  | @cons _ dm after _ _ ht hd hc _ => exact ⟨before, dm, after, rfl, hpre, ht, hd, hc⟩

/-- Each demand has its test behind those of the demands before it. -/
theorem exists_test (h : Laid read n ds ts) {before after : List Demand} {dm : Demand}
    (hds : ds = before ++ dm :: after) :
    ∃ t ∈ ts, dm.test? read = some t.test ∧ t.code.toNat = n + Demand.span before := by
  subst hds
  obtain ⟨pre, _, rfl, _, hpost⟩ := h.split_demands
  cases hpost with
  | @cons _ _ _ t _ ht _ hc _ =>
    exact ⟨t, List.mem_append_right pre List.mem_cons_self, ht, hc⟩

private theorem exists_hasCode_iff (h : Laid read 1 ds ts) {k : UInt8} :
    (∃ dm, Demand.HasCode ds dm k) ↔
      ∃ t ∈ ts, ∃ o, t.test.Declares o ∧ k.toNat = t.code.toNat + o.toNat := by
  constructor
  · rintro ⟨dm, before, after, o, hds, ho, hk⟩
    obtain ⟨t, hmem, ht, hc⟩ := h.exists_test hds
    exact ⟨t, hmem, o, (Demand.declares_iff ht o).mpr ho, by rw [hk, hc]⟩
  · rintro ⟨t, hmem, o, ho, hk⟩
    obtain ⟨pre, post, hts⟩ := List.append_of_mem hmem
    obtain ⟨before, dm, after, hds, _, ht, _, hc⟩ := h.exists_demand hts
    exact ⟨dm, before, after, o, hds, (Demand.declares_iff ht o).mp ho, by rw [hk, hc]⟩

end Laid

namespace ColumnSpec
variable {c : ColumnSpec} {schemaLocale : Option String} {source : LocaleSource} {p : ColumnPlan}

private theorem eq_of_demands_eq_append {before after : List Demand} {check : LocaleCheck}
    (h : c.demands schemaLocale source = before ++ .locale check :: after) :
    c.ownCheck? schemaLocale source = some check ∧
      before = if c.rules.any Rule.isRequired then [.present] else [] := by
  unfold demands at h
  cases hown : c.ownCheck? schemaLocale source with
  | none =>
    have hmem : Demand.locale check ∈ before ++ .locale check :: after :=
      List.mem_append_right before List.mem_cons_self
    rw [← h, hown] at hmem
    simp [typeDemands] at hmem
  | some own =>
    have hpresence : Demand.locale check ∉ if c.rules.any Rule.isRequired then [.present] else [] := by
      split <;> simp
    have hrules : Demand.locale check ∉ (c.rules.filter Rule.isAboutValues).map .rule := by simp
    rw [hown, typeDemands, List.append_assoc, List.singleton_append] at h
    rcases List.append_eq_append_iff.mp h with ⟨as, rfl, hrest⟩ | ⟨bs, hp, hrest⟩
    · cases as with
      | nil =>
        cases hrest
        exact ⟨rfl, List.append_nil _⟩
      | cons a as =>
        exact absurd ((List.cons.inj hrest).2 ▸ List.mem_append_right as List.mem_cons_self) hrules
    · cases bs with
      | nil =>
        cases hrest
        exact ⟨rfl, (hp.trans (List.append_nil _)).symm⟩
      | cons b bs =>
        obtain ⟨rfl, _⟩ := List.cons.inj hrest
        exact absurd (hp ▸ List.mem_append_right before List.mem_cons_self) hpresence

theorem ownCheck?_eq_some {check : LocaleCheck}
    (h : c.ownCheck? schemaLocale source = some check) :
    c.cellType.isLocaleAware = true ∧ ∃ l, c.locale.or schemaLocale = some l ∧
      source.check? c.cellType l (if c.rules.any Rule.isRequired then 2 else 1) = some check := by
  unfold ownCheck? at h
  split at h
  · rename_i ht
    exact ⟨ht, Option.bind_eq_some_iff.mp h⟩
  · cases h

/-- How the codes of a plan are laid out, and what a value can get of them. -/
structure Numbering (c : ColumnSpec) (schemaLocale : Option String) (source : LocaleSource)
    (p : ColumnPlan) : Prop where
  head : ∀ t, p.tests.head? = some t → t.code = 1
  bands : ∃ next ≤ 201, Bands 1 p.tests next
  ascending : p.tests.Pairwise fun t u => t.code < u.code
  disjoint : p.tests.Pairwise fun t u => ∀ k, t.Owns k → ¬ u.Owns k
  bounds : ∀ t ∈ p.tests, ∀ k, t.Owns k → 1 ≤ k ∧ k ≤ 200
  /-- The code of a locale's test is the one that the source of the check was told. -/
  told : ∀ t ∈ p.tests, ∀ check offsets, t.test = .locale check offsets →
    c.cellType.isLocaleAware = true ∧ ∃ l, c.locale.or schemaLocale = some l ∧
      source.check? c.cellType l t.code = some check
  keys : ∀ k, k ∈ p.notices ↔
    ∃ t ∈ p.tests, ∃ o, t.test.Declares o ∧ k.toNat = t.code.toNat + o.toNat
  next_exact : ∀ t ∈ p.tests, ∀ n, t.test.Takes n →
    (t.code + UInt8.ofNat n).toNat = t.code.toNat + n
  key_exact : ∀ t ∈ p.tests, ∀ o, t.test.Declares o → (t.code + o).toNat = t.code.toNat + o.toNat
  validate : ∀ value, p.validate value = 0 ∨ p.validate value ∈ p.notices
  /-- A report of a locale check is shown at its offset if that is declared, else at the least declared
  one. -/
  reported : ∀ t ∈ p.tests, ∀ check offsets, t.test = .locale check offsets →
    ∀ value q, value ≠ "" → check.judge value = some q →
      ∃ o, check.Declares o ∧ (o = q ∨ ¬ check.Declares q ∧ ∀ u, check.Declares u → o ≤ u) ∧
        (p.validate value).toNat = t.code.toNat + o.toNat

private theorem told_of_laid {read : String → Option Binary64} {ts : List CodedTest}
    (hl : Laid read 1 (c.demands schemaLocale source) ts) {t : CodedTest} (ht : t ∈ ts)
    {check : LocaleCheck} {offsets : List UInt8} (hc : t.test = .locale check offsets) :
    c.ownCheck? schemaLocale source = some check ∧
      (t.code = if c.rules.any Rule.isRequired then 2 else 1) ∧
      (Demand.locale check).test? read = some t.test ∧ (∃ o, check.Declares o) ∧
      ∃ pre post, ts = pre ++ t :: post ∧
        Laid read 1 (if c.rules.any Rule.isRequired then [.present] else []) pre := by
  obtain ⟨pre, post, hts⟩ := List.append_of_mem ht
  obtain ⟨before, dm, after, hds, hpre, htest, hd, hcode⟩ := hl.exists_demand hts
  obtain ⟨rfl, _⟩ := Demand.test?_eq_locale (hc ▸ htest)
  obtain ⟨hown, rfl⟩ := eq_of_demands_eq_append hds
  refine ⟨hown, UInt8.toNat_inj.mp ?_, htest, hd, pre, post, hts, hpre⟩
  rw [hcode]
  split <;> rfl

private theorem fault?_of_reported (h : c.plan schemaLocale source = .ok p) {t : CodedTest}
    (ht : t ∈ p.tests) {check : LocaleCheck} {offsets : List UInt8}
    (hc : t.test = .locale check offsets) {value : String} (hv : value ≠ "") {q : UInt8}
    (hq : check.judge value = some q) :
    ∃ k o, p.fault? value = some k ∧ check.Declares o ∧
      (o = q ∨ ¬ check.Declares q ∧ ∀ u, check.Declares u → o ≤ u) ∧
      k.toNat = t.code.toNat + o.toNat := by
  obtain ⟨d, hn, hts, _⟩ := plan_numbered h
  rw [hts] at ht
  obtain ⟨_, _, htest, hd, pre, post, hsplit, hpre⟩ := told_of_laid hn.laid ht hc
  have hpass : pre.findSome? (·.fault? value) = none := by
    rw [hpre.findSome?_eq_none_iff]
    intro dm hdm
    split at hdm
    · rw [List.mem_singleton.mp hdm]
      exact hv
    · cases hdm
  have hfails : t.fault? value ≠ none := fun hnone => by
    have hmet := (Demand.fault?_eq_none_iff htest t.code value).mp hnone hv
    cases hq.symm.trans hmet
  obtain ⟨k, hk⟩ := Option.ne_none_iff_exists'.mp hfails
  obtain ⟨_, n, hw, hroom⟩ := hn.laid.bands.of_mem ht
  have hspan := hn.span_le
  rw [hw.unique (Demand.takes_width htest hd)] at hroom
  obtain ⟨o, ho, ⟨q', hq', _, hat⟩, hcode⟩ := Demand.fault?_eq_some htest (by omega) hd hk
  cases hq.symm.trans hq'
  refine ⟨k, o, ?_, ho, hat, hcode⟩
  rw [ColumnPlan.fault?, hts, hsplit, List.findSome?_append, hpass, Option.none_or,
    List.findSome?_cons, hk]

private theorem mem_notices_iff_of_plan (h : c.plan schemaLocale source = .ok p) (k : UInt8) :
    k ∈ p.notices ↔ ∃ t ∈ p.tests, ∃ o, t.test.Declares o ∧ k.toNat = t.code.toNat + o.toNat := by
  obtain ⟨d, hn, hts, hnotices⟩ := plan_numbered h
  rw [hts, ← hn.laid.exists_hasCode_iff, hnotices, Std.TreeMap.mem_iff_isSome_getElem?,
    Option.isSome_iff_exists]
  constructor
  · rintro ⟨n, hk⟩
    exact hn.hasCode_of_notice k n hk
  · rintro ⟨dm, hk⟩
    obtain ⟨n, hk, _⟩ := hn.notice_of_hasCode dm k hk
    exact ⟨n, hk⟩

end ColumnSpec

private theorem ColumnPlan.Sound.validate_mem_notices {p : ColumnPlan} (hs : p.Sound)
    (value : String) : p.validate value = 0 ∨ p.validate value ∈ p.notices := by
  cases hk : p.fault? value with
  | none => exact .inl (hs.validate_eq_zero_iff.mpr hk)
  | some k =>
    rw [(hs.validate_of_fault? hk).1, Std.TreeMap.mem_iff_isSome_getElem?]
    exact .inr (Option.isSome_iff_exists.mpr (hs.noticed hk))

namespace ColumnSpec
variable {c : ColumnSpec} {schemaLocale : Option String} {source : LocaleSource} {p : ColumnPlan}

/-- The codes of every plan are laid out in bands, and a value gets one of the codes with a notice
or none. -/
theorem numbering_of_plan (h : c.plan schemaLocale source = .ok p) :
    c.Numbering schemaLocale source p := by
  obtain ⟨d, hn, hts, _⟩ := plan_numbered h
  have hbands : Bands 1 p.tests (1 + Demand.span (c.demands schemaLocale source)) :=
    hts ▸ hn.laid.bands
  have hlast := hn.span_le
  have hroom {t : CodedTest} (ht : t ∈ p.tests) :
      ∃ n, t.test.Takes n ∧ t.code.toNat + n ≤ 201 := by
    obtain ⟨_, n, hw, hle⟩ := hbands.of_mem ht
    exact ⟨n, hw, by omega⟩
  exact {
    head := fun t ht => UInt8.toNat_inj.mp (hbands.toNat_head ht)
    bands := ⟨_, by omega, hbands⟩
    ascending := hbands.pairwise_lt
    disjoint := hbands.pairwise_disjoint
    bounds := fun t ht k hk => by
      obtain ⟨hle, hlt⟩ := hbands.owns_bounds ht hk
      omega
    told := fun t ht check offsets hc => by
      obtain ⟨hown, hcode, _⟩ := told_of_laid hn.laid (hts ▸ ht) hc
      rw [hcode]
      exact ownCheck?_eq_some hown
    keys := mem_notices_iff_of_plan h
    next_exact := fun t ht n hw => by
      obtain ⟨m, hm, hle⟩ := hroom ht
      rw [hw.unique hm, UInt8.toNat_add, UInt8.toNat_ofNat']
      omega
    key_exact := fun t ht o ho => by
      obtain ⟨n, hw, hle⟩ := hroom ht
      have hlt := hw.lt_of_declares ho
      rw [UInt8.toNat_add, Nat.mod_eq_of_lt (by omega)]
    validate := (plan_sound h).validate_mem_notices
    reported := fun t ht check offsets hc value q hv hq => by
      obtain ⟨k, o, hk, ho, hat, hcode⟩ := fault?_of_reported h ht hc hv hq
      rw [((plan_sound h).validate_of_fault? hk).1]
      exact ⟨o, ho, hat, hcode⟩ }

private def looseSource : LocaleSource :=
  ⟨fun _ _ _ => some ⟨[⟨4, "late"⟩, ⟨1, "early"⟩, ⟨4, "later"⟩], fun _ => some 200, fun _ => none⟩⟩

private def looseSpec : ColumnSpec :=
  ⟨"when", .date, [.minLength 2, .required], some "xx", []⟩

/-- The five codes of the check lie between that of presence and that of the length; the stray fault
has the least of them that is declared. -/
theorem numbering_of_plan_loose : ∃ p, looseSpec.plan none looseSource = .ok p ∧
    p.tests.map (·.code) = [1, 2, 7] ∧ p.validate "x" = 3 ∧ 3 ∈ p.notices := by
  obtain ⟨p, hp, hcodes, hcode⟩ : ∃ p, looseSpec.plan none looseSource = .ok p ∧
      p.tests.map (·.code) = [1, 2, 7] ∧ p.validate "x" = 3 := ⟨_, rfl, rfl, rfl⟩
  refine ⟨p, hp, hcodes, hcode, ?_⟩
  rcases (numbering_of_plan hp).validate "x" with h0 | hmem
  · rw [hcode] at h0
    cases h0
  · rwa [hcode] at hmem

end ColumnSpec
end TableAudit
