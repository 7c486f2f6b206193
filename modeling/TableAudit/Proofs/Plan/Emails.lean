import TableAudit.Proofs.Pattern.Words
import TableAudit.Proofs.Plan.Bands
import TableAudit.Proofs.Plan.Defects

/-! The form of email addresses, as an email rule tests it. -/
namespace TableAudit

/-- The form of an email address: no blank, one `@`, not at the start, and behind it a point that is
neither the first character nor the last. -/
structure EmailForm (t : List Char) : Prop where
  no_blank : ∀ c ∈ t, Text.isBlank c = false
  one_at : t.count '@' = 1
  parts : ∃ user host, t = user ++ '@' :: host ∧ user ≠ [] ∧
    ∃ i, 0 < i ∧ i + 1 < host.length ∧ host[i]? = some '.'

namespace Pattern
variable {t u : List Char}

def Plain (u : List Char) : Prop := ∀ c ∈ u, Text.isBlank c = false ∧ c ≠ '@'

private theorem plain_sides_iff {user host : List Char} : Plain user ∧ Plain host ↔
    (∀ c ∈ user ++ '@' :: host, Text.isBlank c = false) ∧
      (user ++ '@' :: host).count '@' = 1 := by
  have hplain {u : List Char} : Plain u ↔ (∀ c ∈ u, Text.isBlank c = false) ∧ u.count '@' = 0 := by
    rw [List.count_eq_zero]
    constructor
    · intro h
      exact ⟨fun c hc => (h c hc).1, fun hat => (h _ hat).2 rfl⟩
    · rintro ⟨hblank, hat⟩ c hc
      exact ⟨hblank c hc, fun he => hat (he ▸ hc)⟩
  have hcount : (user ++ '@' :: host).count '@' = 1 ↔ user.count '@' = 0 ∧ host.count '@' = 0 := by
    rw [List.count_append, List.count_cons_self]
    omega
  have hmark : Text.isBlank '@' = false := by decide
  rw [hplain, hplain, hcount, List.forall_mem_append, List.forall_mem_cons]
  tauto

private theorem exists_inner_point_iff {host : List Char} :
    (∃ i, 0 < i ∧ i + 1 < host.length ∧ host[i]? = some '.') ↔
      ∃ name zone, host = name ++ '.' :: zone ∧ name ≠ [] ∧ zone ≠ [] := by
  constructor
  · rintro ⟨i, hpos, hlast, hdot⟩
    obtain ⟨hlt, hchar⟩ := List.getElem?_eq_some_iff.mp hdot
    refine ⟨host.take i, host.drop (i + 1), ?_, ?_, ?_⟩
    · rw [← hchar, ← List.drop_eq_getElem_cons hlt, List.take_append_drop]
    · exact List.ne_nil_of_length_pos (by rw [List.length_take]; omega)
    · exact List.ne_nil_of_length_pos (by rw [List.length_drop]; omega)
  · rintro ⟨name, zone, rfl, hname, hzone⟩
    have hname := List.length_pos_iff.mpr hname
    have hzone := List.length_pos_iff.mpr hzone
    refine ⟨name.length, hname, ?_, by simp⟩
    rw [List.length_append, List.length_cons]
    omega

private theorem word_part_iff :
    (many (.chars (CharSet.blanks.union (.single '@')).complement)).Word u ↔ u ≠ [] ∧ Plain u := by
  have hranges : ∀ r ∈ CharSet.blanks.ranges, r.1 ≤ r.2 := by decide
  have hsingle : ∀ r ∈ (CharSet.single '@').ranges, r.1 ≤ r.2 := by decide
  have hcontains (c : Char) : (CharSet.blanks.union (.single '@')).complement.contains c = true ↔
      Text.isBlank c = false ∧ c ≠ '@' := by
    rw [CharSet.contains_complement_iff (CharSet.ascending_union hranges hsingle),
      CharSet.contains_union_iff hranges hsingle, CharSet.contains_blanks,
      CharSet.contains_single_iff, not_or, Bool.not_eq_true]
  simp only [many, word_times_chars_iff, hcontains, Nat.succ_le_iff, List.length_pos_iff]
  simp [Plain]

private theorem email_occursIn_iff_parts : email.occursIn t = true ↔ ∃ user name zone : List Char,
    t = user ++ '@' :: (name ++ '.' :: zone) ∧ (user ≠ [] ∧ Plain user) ∧ (name ≠ [] ∧ Plain name) ∧
      zone ≠ [] ∧ Plain zone := by
  rw [email, occursIn_whole_iff (List.all_eq_true.mp rfl) (List.all_eq_true.mp rfl)]
  simp only [word_seqAll_cons, word_char_iff, word_part_iff]
  constructor
  · rintro ⟨user, _, rfl, huser, _, _, rfl, rfl, name, _, rfl, hname, _, _, rfl, rfl, zone, _, rfl,
      hzone, rfl⟩
    exact ⟨user, name, zone, by simp, huser, hname, hzone⟩
  · rintro ⟨user, name, zone, rfl, huser, hname, hzone⟩
    exact ⟨user, _, rfl, huser, ['@'], _, rfl, rfl, name, _, rfl, hname, ['.'], _, rfl, rfl, zone, [],
      by simp, hzone, rfl⟩

private theorem email_occursIn_iff : email.occursIn t = true ↔ EmailForm t := by
  have hpoint {name zone : List Char} : Plain (name ++ '.' :: zone) ↔ Plain name ∧ Plain zone := by
    rw [Plain, List.forall_mem_append, List.forall_mem_cons]
    exact and_congr_right fun _ => and_iff_right ⟨by decide, by decide⟩
  rw [email_occursIn_iff_parts]
  constructor
  · rintro ⟨user, name, zone, rfl, ⟨huser, hplain⟩, ⟨hname, hplain'⟩, hzone, hplain''⟩
    obtain ⟨hblank, hat⟩ := plain_sides_iff.mp ⟨hplain, hpoint.mpr ⟨hplain', hplain''⟩⟩
    exact ⟨hblank, hat, user, _, rfl, huser, exists_inner_point_iff.mpr ⟨_, _, rfl, hname, hzone⟩⟩
  · rintro ⟨hblank, hat, user, host, rfl, huser, hinner⟩
    obtain ⟨name, zone, rfl, hname, hzone⟩ := exists_inner_point_iff.mp hinner
    obtain ⟨hplain, hhost⟩ := plain_sides_iff.mpr ⟨hblank, hat⟩
    obtain ⟨hplain', hplain''⟩ := hpoint.mp hhost
    exact ⟨user, name, zone, rfl, ⟨huser, hplain⟩, ⟨hname, hplain'⟩, hzone, hplain''⟩

end Pattern

namespace ColumnSpec
variable {c : ColumnSpec} {schemaLocale : Option String} {source : LocaleSource} {p : ColumnPlan}

private theorem cellType_of_email (h : c.plan schemaLocale source = .ok p) (hr : .email ∈ c.rules) :
    c.cellType = .string := by
  by_contra htype
  obtain ⟨i, hi⟩ := List.mem_iff_getElem?.mp hr
  rcases c.plan_cases schemaLocale source with ⟨e, _, he⟩ | ⟨hwell, _⟩
  · cases h.symm.trans he
  · exact hwell (i + 1) _ (.rule (.malformed hi (.misplacedEmail htype)))

private theorem exists_test_of_rule (h : c.plan schemaLocale source = .ok p) {r : Rule}
    (hr : r ∈ c.rules) (hv : r.isAboutValues = true) :
    ∃ t ∈ p.tests, (Demand.rule r).test? (c.reader schemaLocale source) = some t.test := by
  obtain ⟨d, hn, htests, _⟩ := plan_numbered h
  have hmem : .rule r ∈ c.demands schemaLocale source :=
    mem_demands.mpr (.inr (.inr ⟨r, hr, hv, rfl⟩))
  obtain ⟨before, after, hsplit⟩ := List.append_of_mem hmem
  obtain ⟨t, ht, htest, _⟩ := hn.laid.exists_test hsplit
  exact ⟨t, htests ▸ ht, htest⟩

/-- A plan with an email rule is of a column of strings and has a test of emails; each such test
passes the values of the form of an email address and finds a fault in the others, and none of them
passes the plan. -/
theorem email_tests (h : c.plan schemaLocale source = .ok p) (hr : .email ∈ c.rules) :
    c.cellType = .string ∧ (∃ t ∈ p.tests, t.test = .email) ∧
      (∀ t ∈ p.tests, t.test = .email → ∀ value, value ≠ "" →
        (t.fault? value = none ↔ EmailForm value.toList) ∧
        (t.fault? value = some t.code ↔ ¬ EmailForm value.toList)) ∧
      ∀ value, value ≠ "" → p.validate value = 0 → EmailForm value.toList := by
  have htests : ∀ t ∈ p.tests, t.test = .email → ∀ value, value ≠ "" →
      (t.fault? value = none ↔ EmailForm value.toList) ∧
      (t.fault? value = some t.code ↔ ¬ EmailForm value.toList) := by
    rintro ⟨_, code⟩ _ rfl value hv
    rw [← Pattern.email_occursIn_iff]
    simp [CodedTest.fault?, hv]
  obtain ⟨t, ht, htest⟩ := exists_test_of_rule h hr rfl
  have htest : t.test = .email := Option.some.inj htest.symm
  refine ⟨cellType_of_email h hr, ⟨t, ht, htest⟩, htests, fun value hv h0 => ?_⟩
  have hpass := (plan_sound h).validate_eq_zero_iff.mp h0
  exact (htests t ht htest value hv).1.mp (List.findSome?_eq_none_iff.mp hpass t ht)

private def mailSpec : ColumnSpec := ⟨"mail", .string, [.maxLength 9, .email, .required], none, []⟩

/-- Points may stand beside the `@` if there is another one, and a line break is a blank. -/
theorem email_tests_points : ∃ p, mailSpec.plan none ⟨fun _ _ _ => none⟩ = .ok p ∧
    ∃ t ∈ p.tests, t.fault? ".@..b" = none ∧ t.fault? "a@.b" = some t.code ∧
      t.fault? "a@b.c\n" = some t.code := by
  obtain ⟨p, hp⟩ : ∃ p, mailSpec.plan none ⟨fun _ _ _ => none⟩ = .ok p := ⟨_, rfl⟩
  obtain ⟨-, ⟨t, ht, htest⟩, htests, -⟩ := email_tests hp (.tail _ (.head _))
  refine ⟨p, hp, t, ht, (htests t ht htest _ (by decide)).1.mpr ?_,
    (htests t ht htest _ (by decide)).2.mpr ?_, (htests t ht htest _ (by decide)).2.mpr ?_⟩
  · have hblank : ".@..b".toList.any Text.isBlank = false := by decide
    exact ⟨fun c hc => Bool.eq_false_iff.mpr (List.any_eq_false.mp hblank c hc), by decide,
      ['.'], ['.', '.', 'b'], rfl, by decide, 1, by decide, by decide, rfl⟩
  · rintro ⟨-, -, user, host, ht, huser, i, hpos, hlast, -⟩
    obtain _ | ⟨c, _ | ⟨d, user⟩⟩ := user
    · exact huser rfl
    · obtain ⟨-, -, rfl⟩ : 'a' = c ∧ '@' = '@' ∧ ['.', 'b'] = host := by simpa using ht
      simp only [List.length_cons, List.length_nil] at hlast
      omega
    · have hmem : '@' ∈ ['.', 'b'] := by
        rw [show ['.', 'b'] = user ++ '@' :: host from congrArg (List.drop 2) ht]
        simp
      exact absurd hmem (by decide)
  · exact fun h => absurd (h.no_blank '\n' (by decide)) (by decide)

end ColumnSpec
end TableAudit
