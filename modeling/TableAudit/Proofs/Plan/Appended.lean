import TableAudit.Proofs.Plan.Bands

/-! Further rules behind those of a column. The codes that were given keep their places and their
meaning. -/
namespace TableAudit

/-- A draft that has the tests and notices of another one, with more behind them: its further tests
show faults under codes that were free before. -/
structure PlanDraft.Extends (e d : PlanDraft) : Prop where
  next_le : d.next ≤ e.next
  tests : ∃ more, e.tests = d.tests ++ more ∧
    ∀ t ∈ more, ∀ value k, t.fault? value = some k → d.next ≤ k
  notices : ∀ k < d.next, e.notices[k]? = d.notices[k]?

namespace PlanDraft
variable {d e f : PlanDraft}

private theorem Extends.refl (d : PlanDraft) : d.Extends d :=
  ⟨UInt8.le_refl _, ⟨[], (List.append_nil _).symm, by simp⟩, fun _ _ => rfl⟩

private theorem Extends.trans (h : f.Extends e) (h' : e.Extends d) : f.Extends d := by
  obtain ⟨more, hmore, hfaults⟩ := h'.tests
  obtain ⟨more', hmore', hfaults'⟩ := h.tests
  refine ⟨UInt8.le_trans h'.next_le h.next_le, ⟨more ++ more', ?_, fun t ht value k hk => ?_⟩,
    fun k hk => ?_⟩
  · rw [hmore', hmore, List.append_assoc]
  · rcases List.mem_append.mp ht with ht | ht
    · exact hfaults t ht value k hk
    · exact UInt8.le_trans h'.next_le (hfaults' t ht value k hk)
  · rw [h.notices k (UInt8.lt_of_lt_of_le hk h'.next_le), h'.notices k hk]

private theorem extends_of_addOne {column : String} {read : String → Option Binary64} {r : Rule}
    {test : Test} {message : String} (ht : (Demand.rule r).test? read = some test)
    (h : d.addOne column test r.name r.kind message = .ok e) : e.Extends d := by
  obtain ⟨hroom, hnext, htests, hnotices⟩ := add_eq_ok h
  refine ⟨?next, ⟨[⟨test, d.next⟩], htests, fun t hmem value k hk => ?codes⟩, fun k hk => ?notices⟩
  case next =>
    rw [hnext, UInt8.le_iff_toNat_le, UInt8.toNat_add]
    simp only [UInt8.toNat_ofNat']
    omega
  case codes =>
    rw [List.mem_singleton.mp hmem] at hk
    obtain ⟨o, -, -, hcode⟩ := Demand.fault?_eq_some ht (Nat.succ_le_of_lt d.next.toNat_lt) ⟨0, rfl⟩ hk
    exact UInt8.le_iff_toNat_le.mpr (by omega)
  case notices =>
    rw [hnotices, List.foldl_cons, List.foldl_nil, Std.TreeMap.getElem?_insert]
    have hne : d.next ≠ k := fun he => UInt8.lt_irrefl k (he ▸ hk)
    simp [hne]

end PlanDraft

def ColumnSpec.withRules (c : ColumnSpec) (rs : List Rule) : ColumnSpec :=
  { c with rules := c.rules ++ rs }

namespace ColumnSpec
variable {c : ColumnSpec} {schemaLocale : Option String} {source : LocaleSource}
  {read : String → Option Binary64} {rs : List Rule} {d e : PlanDraft}

private theorem addRule_extends {r : Rule} (h : c.addRule read d r = .ok e) : e.Extends d := by
  cases hv : r.isAboutValues with
  | false =>
    rw [addRule_of_not_isAboutValues hv] at h
    cases h
    exact .refl d
  | true =>
    obtain ⟨test, message, ht, hadd⟩ := addRule_eq_ok hv h
    exact PlanDraft.extends_of_addOne ht hadd

private theorem addRules_extends (h : rs.foldlM (c.addRule read) d = .ok e) : e.Extends d := by
  induction rs generalizing d with
  | nil =>
    cases h
    exact .refl _
  | cons r rs ih =>
    rw [List.foldlM_cons, bind_eq_ok] at h
    obtain ⟨d', hr, h⟩ := h
    exact (ih h).trans (addRule_extends hr)

private theorem any_isRequired_withRules (hrs : ∀ r ∈ rs, r.isRequired = false) :
    (c.withRules rs).rules.any Rule.isRequired = c.rules.any Rule.isRequired := by
  have hnone : rs.any Rule.isRequired = false :=
    List.any_eq_false.mpr fun r hr => Bool.eq_false_iff.mp (hrs r hr)
  rw [withRules, List.any_append, hnone, Bool.or_false]

private theorem typeDraft_withRules (hrs : ∀ r ∈ rs, r.isRequired = false) :
    (c.withRules rs).typeDraft schemaLocale source = c.typeDraft schemaLocale source := by
  unfold typeDraft
  rw [any_isRequired_withRules hrs]
  rfl

private theorem reader_withRules (hrs : ∀ r ∈ rs, r.isRequired = false) :
    (c.withRules rs).reader schemaLocale source = c.reader schemaLocale source := by
  unfold reader ownCheck?
  rw [any_isRequired_withRules hrs]
  rfl

private theorem exists_extends_of_plan {p p' : ColumnPlan} (hrs : ∀ r ∈ rs, r.isRequired = false)
    (h : c.plan schemaLocale source = .ok p)
    (h' : (c.withRules rs).plan schemaLocale source = .ok p') :
    ∃ d e : PlanDraft, d.Numbered (c.reader schemaLocale source) (c.demands schemaLocale source) ∧
      e.Extends d ∧ p.tests = d.tests ∧ p.notices = d.notices ∧ p'.tests = e.tests ∧
      p'.notices = e.notices ∧ p'.customRules = p.customRules ++ rs.filterMap Rule.custom? := by
  obtain ⟨d₀, d, htype, hrules, hbuilt, _, rfl⟩ := drafts_of_plan h
  obtain ⟨d₀', e, htype', hrules', _, _, rfl⟩ := drafts_of_plan h'
  rw [typeDraft_withRules hrs, htype] at htype'
  cases htype'
  rw [reader_withRules hrs, withRules, List.foldlM_append, bind_eq_ok] at hrules'
  obtain ⟨d', hrules', hmore⟩ := hrules'
  cases hrules.symm.trans hrules'
  exact ⟨d, e, hbuilt.numbered, addRules_extends hmore, rfl, rfl, rfl, rfl, List.filterMap_append⟩

end ColumnSpec

/-- A plan that goes on where another one ends. -/
structure ColumnPlan.Continues (p' p : ColumnPlan) : Prop where
  code_kept : ∀ value, p.validate value ≠ 0 → p'.validate value = p.validate value
  /-- A value without one gets none, or one behind all that the tests of the other plan take. -/
  code_new : ∀ value, p.validate value = 0 →
    p'.validate value = 0 ∨ ∀ t ∈ p.tests, ∀ k, t.Owns k → k < (p'.validate value).toNat
  notice_owned : ∀ t ∈ p.tests, ∀ k : UInt8, t.Owns k.toNat → p'.notice? k = p.notice? k
  notice_kept : ∀ k n, p.notice? k = some n → p'.notice? k = some n
  customRules : p.customRules <+: p'.customRules
  failingCustom? : ∀ value i, p.failingCustom? value = some i → p'.failingCustom? value = some i

namespace PlanDraft
variable {d e : PlanDraft} {read : String → Option Binary64} {ds : List Demand}

private theorem Numbered.lt_next_of_owns (h : d.Numbered read ds) {t : CodedTest} (ht : t ∈ d.tests)
    {k : Nat} (hk : t.Owns k) : k < d.next.toNat := by
  rw [h.next_eq]
  exact (h.laid.bands.owns_bounds ht hk).2

private theorem Numbered.lt_next_of_notice (h : d.Numbered read ds) {k : UInt8} {n : Notice}
    (hk : d.notices[k]? = some n) : k < d.next := by
  obtain ⟨dm, hcode⟩ := h.hasCode_of_notice k n hk
  have hle := hcode.bounds.2
  have hnext := h.next_eq
  exact UInt8.lt_iff_toNat_lt.mpr (by omega)

private theorem Extends.findSome?_fault? (h : e.Extends d) (value : String) :
    (∀ k, d.tests.findSome? (·.fault? value) = some k →
      e.tests.findSome? (·.fault? value) = some k) ∧
    (d.tests.findSome? (·.fault? value) = none →
      ∀ k, e.tests.findSome? (·.fault? value) = some k → d.next ≤ k) := by
  obtain ⟨more, hmore, hfaults⟩ := h.tests
  rw [hmore, List.findSome?_append]
  refine ⟨fun k hk => by rw [hk, Option.some_or], fun hnone k hk => ?_⟩
  rw [hnone, Option.none_or] at hk
  obtain ⟨t, ht, hk⟩ := List.exists_of_findSome?_eq_some hk
  exact hfaults t ht value k hk

end PlanDraft

namespace ColumnSpec
variable {c : ColumnSpec} {schemaLocale : Option String} {source : LocaleSource} {rs : List Rule}
  {p p' : ColumnPlan}

/-- Behind the rules of a column further rules that do not ask for presence leave the codes of
values, their notices and the indices of custom rules as they are, and what they find in other
values has codes of its own. -/
theorem plan_withRules (hrs : ∀ r ∈ rs, r.isRequired = false)
    (h : c.plan schemaLocale source = .ok p)
    (h' : (c.withRules rs).plan schemaLocale source = .ok p') : p'.Continues p := by
  obtain ⟨d, e, hn, hext, htests, hnotices, htests', hnotices', hcustom⟩ :=
    exists_extends_of_plan hrs h h'
  have hs := plan_sound h
  have hs' := plan_sound h'
  have hfault (value : String) := hext.findSome?_fault? value
  rw [← htests, ← htests'] at hfault
  have hnotice (k : UInt8) (hk : k < d.next) : p'.notice? k = p.notice? k := by
    rw [ColumnPlan.notice?, ColumnPlan.notice?, hnotices, hnotices', hext.notices k hk]
  refine ⟨fun value hne => ?kept, fun value h0 => ?new, fun t ht k hk => ?owned,
    fun k n hk => ?noticed, ⟨_, hcustom.symm⟩, fun value i hi => ?failing⟩
  case kept =>
    obtain ⟨k, hk⟩ := Option.ne_none_iff_exists'.mp (mt hs.validate_eq_zero_iff.mpr hne)
    rw [(hs.validate_of_fault? hk).1, (hs'.validate_of_fault? ((hfault value).1 k hk)).1]
  case new =>
    rw [hs'.validate_eq_zero_iff, or_iff_not_imp_left]
    intro hne t ht k hk
    obtain ⟨k', hk'⟩ := Option.ne_none_iff_exists'.mp hne
    have hnew := (hfault value).2 (hs.validate_eq_zero_iff.mp h0) k' hk'
    rw [(hs'.validate_of_fault? hk').1]
    exact Nat.lt_of_lt_of_le (hn.lt_next_of_owns (htests ▸ ht) hk) (UInt8.le_iff_toNat_le.mp hnew)
  case owned =>
    exact hnotice k (UInt8.lt_iff_toNat_lt.mpr (hn.lt_next_of_owns (htests ▸ ht) hk))
  case noticed =>
    rw [ColumnPlan.notice?, hnotices] at hk
    rw [hnotice k (hn.lt_next_of_notice hk), ColumnPlan.notice?, hnotices, hk]
  case failing =>
    rw [ColumnPlan.failingCustom?] at hi ⊢
    rw [hcustom, List.findIdx?_append, hi, Option.some_or]

private def hourCheck : LocaleCheck :=
  ⟨[⟨3, "no such hour"⟩, ⟨0, "no time"⟩], fun value => if value = "25:00" then some 3 else none,
    fun _ => none⟩

private def startSpec : ColumnSpec :=
  ⟨"start", .date, [.custom ⟨0, fun value => value != "12:00", "noon"⟩, .unique, .minLength 2],
    some "xx", []⟩

private theorem owns_hourCheck : CodedTest.Owns ⟨.locale hourCheck (offsetsOf hourCheck), 1⟩ 2 := by
  refine ⟨4, ⟨3, ⟨⟨3, "no such hour"⟩, .head _, rfl⟩, ?_, rfl⟩, by decide, by decide⟩
  rintro u ⟨f, hf, rfl⟩
  rcases List.mem_cons.mp hf with rfl | hf
  · decide
  · rw [List.mem_singleton.mp hf]
    decide

/-- The four codes of the check, that of the length and the custom rule stay in their places; a length
that is new has a code behind them. -/
theorem plan_withRules_start : ∃ p p', startSpec.plan none ⟨fun _ _ _ => some hourCheck⟩ = .ok p ∧
    (startSpec.withRules [.custom ⟨1, fun _ => false, "never"⟩, .maxLength 4]).plan none
      ⟨fun _ _ _ => some hourCheck⟩ = .ok p' ∧
    p'.validate "25:00" = 4 ∧ p'.validate "7" = 5 ∧ 5 < (p'.validate "12:00").toNat ∧
    p'.notice? 2 = none ∧ p'.failingCustom? "12:00" = some 0 := by
  obtain ⟨p, hp, hlocale, hlength, hlate, hshort, hnoon, hgap, hcustom⟩ :
      ∃ p, startSpec.plan none ⟨fun _ _ _ => some hourCheck⟩ = .ok p ∧
        p.tests[0]? = some ⟨.locale hourCheck (offsetsOf hourCheck), 1⟩ ∧
        p.tests[1]? = some ⟨.minLength 2, 5⟩ ∧ p.validate "25:00" = 4 ∧ p.validate "7" = 5 ∧
        p.validate "12:00" = 0 ∧ p.notice? 2 = none ∧ p.failingCustom? "12:00" = some 0 :=
    ⟨_, rfl, rfl, rfl, rfl, rfl, rfl, rfl, rfl⟩
  obtain ⟨p', hp', hlong⟩ : ∃ p', (startSpec.withRules [.custom ⟨1, fun _ => false, "never"⟩,
      .maxLength 4]).plan none ⟨fun _ _ _ => some hourCheck⟩ = .ok p' ∧ p'.validate "12:00" ≠ 0 :=
    ⟨_, rfl, by decide⟩
  have hcontinues := plan_withRules (by decide) hp hp'
  have howns : CodedTest.Owns ⟨.minLength 2, 5⟩ 5 := ⟨1, rfl, by decide, by decide⟩
  have hnew := (hcontinues.code_new "12:00" hnoon).resolve_left hlong
  refine ⟨p, p', hp, hp', ?_, ?_, ?_, ?_, hcontinues.failingCustom? _ _ hcustom⟩
  · rw [hcontinues.code_kept "25:00" (by rw [hlate]; decide), hlate]
  · rw [hcontinues.code_kept "7" (by rw [hshort]; decide), hshort]
  · exact hnew _ (List.mem_of_getElem? hlength) 5 howns
  · rw [hcontinues.notice_owned _ (List.mem_of_getElem? hlocale) 2 owns_hourCheck, hgap]

end ColumnSpec
end TableAudit
