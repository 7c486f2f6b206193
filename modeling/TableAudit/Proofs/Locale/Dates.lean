import TableAudit.Proofs.Locale.Numbers
import TableAudit.Proofs.Pattern.Words

/-! The written forms of dates in the built-in locales. Texts of another shape are told from dates
that do not exist. -/
namespace TableAudit

namespace Calendar

def IsLeap (year : Nat) : Prop := 4 ∣ year ∧ (100 ∣ year → 400 ∣ year)

/-- A day of the Gregorian calendar, which goes back to the year 0. -/
structure IsDay (year month day : Nat) : Prop where
  month_pos : 1 ≤ month
  month_le : month ≤ 12
  day_pos : 1 ≤ day
  day_le : day ≤ 31
  short_month : month = 4 ∨ month = 6 ∨ month = 9 ∨ month = 11 → day ≤ 30
  february : month = 2 → day ≤ 28 ∨ day = 29 ∧ IsLeap year

private theorem isLeapYear_iff (year : Nat) : isLeapYear year = true ↔ IsLeap year := by
  simp only [isLeapYear, IsLeap, Bool.and_eq_true, Bool.or_eq_true, decide_eq_true_eq, bne_iff_ne]
  omega

private theorem isDate_iff {year month day : Nat} :
    isDate year month day = true ↔ IsDay year month day := by
  have hleap := isLeapYear_iff year
  simp only [isDate, Bool.and_eq_true, decide_eq_true_eq]
  unfold daysIn
  constructor
  · rintro ⟨⟨⟨hm, hm'⟩, hd⟩, hd'⟩
    refine ⟨hm, hm', hd, ?_, ?_, ?_⟩
    · split_ifs at hd' <;> omega
    · intro hshort
      rw [if_neg (by omega), if_pos hshort] at hd'
      exact hd'
    · intro hfebruary
      rw [if_pos hfebruary] at hd'
      split at hd'
      · rename_i hyear
        rcases Nat.lt_or_eq_of_le hd' with hlt | heq
        · exact .inl (Nat.le_of_lt_succ hlt)
        · exact .inr ⟨heq, hleap.mp hyear⟩
      · exact .inl hd'
  · rintro ⟨hm, hm', hd, hd', hshort, hfebruary⟩
    refine ⟨⟨⟨hm, hm'⟩, hd⟩, ?_⟩
    split_ifs with h2 hyear h30
    · have := hfebruary h2
      omega
    · rcases hfebruary h2 with hle | ⟨-, hyear'⟩
      · exact hle
      · exact absurd (hleap.mpr hyear') hyear
    · exact hshort h30
    · exact hd'

end Calendar

namespace Text

theorem isDecimalDigit_of_isDigit {c : Char} (h : c.isDigit = true) : isDecimalDigit c = true := by
  have hrange := isDigit_iff.mp h
  refine List.any_eq_true.mpr ⟨0x30, List.mem_cons_self, ?_⟩
  simp only [Bool.and_eq_true, decide_eq_true_eq]
  omega

end Text

structure Runs (isDigit : Char → Bool) (mark : Char) (text a b c : List Char) : Prop where
  text_eq : text = a ++ mark :: (b ++ mark :: c)
  first : ∀ d ∈ a, isDigit d = true
  second : ∀ d ∈ b, isDigit d = true
  third : ∀ d ∈ c, isDigit d = true

structure IsoForm (isDigit : Char → Bool) (text a b c : List Char) : Prop
    extends Runs isDigit '-' text a b c where
  length_first : a.length = 4
  length_second : b.length = 2
  length_third : c.length = 2

structure ShortForm (isDigit : Char → Bool) (mark : Char) (text a b c : List Char) : Prop
    extends Runs isDigit mark text a b c where
  length_first : 1 ≤ a.length ∧ a.length ≤ 2
  length_second : 1 ≤ b.length ∧ b.length ≤ 2
  length_third : c.length = 4

/-- The year, the month and the day among three texts, by their order. -/
inductive DateOrder.Arranges (y m d : List Char) :
    DateOrder → List Char → List Char → List Char → Prop
  | yearMonthDay : Arranges y m d .yearMonthDay y m d
  | monthDayYear : Arranges y m d .monthDayYear m d y
  | dayMonthYear : Arranges y m d .dayMonthYear d m y

/-- A text with the digits of its year, month and day: in the international form, or in the short form
with the mark and the order of the locale. -/
inductive LocaleFormat.WritesDate (f : LocaleFormat) (isDigit : Char → Bool) (text : List Char) :
    List Char → List Char → List Char → Prop
  | iso {y m d} : IsoForm isDigit text y m d → WritesDate f isDigit text y m d
  | short {y m d a b c} : f.dateOrder.Arranges y m d a b c →
      ShortForm isDigit f.dateMark text a b c → WritesDate f isDigit text y m d

section Runs

variable {isDigit isDigit' : Char → Bool} {mark : Char} {t a b c a' b' c' : List Char}

theorem Runs.mono (h : ∀ ch, isDigit ch = true → isDigit' ch = true)
    (hr : Runs isDigit mark t a b c) : Runs isDigit' mark t a b c :=
  ⟨hr.text_eq, fun d hd => h d (hr.first d hd), fun d hd => h d (hr.second d hd),
    fun d hd => h d (hr.third d hd)⟩

private theorem Runs.parts_eq (hr : Runs isDigit mark t a b c) (hm : isDigit mark = false) :
    Text.parts (· = mark) t = [a, b, c] := by
  have unmarked {r : List Char} (h : ∀ d ∈ r, isDigit d = true) :
      ∀ d ∈ r, decide (d = mark) = false := by
    intro d hd
    rw [decide_eq_false_iff_not]
    rintro rfl
    rw [h d hd] at hm
    cases hm
  have hmark : decide (mark = mark) = true := decide_eq_true rfl
  rw [hr.text_eq, Text.parts_append (unmarked hr.first) hmark,
    Text.parts_append (unmarked hr.second) hmark, Text.parts_of_forall (unmarked hr.third)]

private theorem Runs.not_mem (hr : Runs isDigit mark t a b c) {ch : Char} (h : isDigit ch = false)
    (hne : ch ≠ mark) : ch ∉ t := by
  have hnot {r : List Char} (hall : ∀ d ∈ r, isDigit d = true) : ch ∉ r := by
    intro hmem
    rw [hall ch hmem] at h
    cases h
  rw [hr.text_eq]
  simp [hne, hnot hr.first, hnot hr.second, hnot hr.third]

private theorem Runs.mem (hr : Runs isDigit mark t a b c) : mark ∈ t := by
  rw [hr.text_eq]
  simp

end Runs

namespace Pattern

private theorem word_marked_iff {p q r : Pattern} {mark : Char} {t : List Char} :
    (seqAll [p, char mark, q, char mark, r]).Word t ↔
      ∃ a b c, t = a ++ mark :: (b ++ mark :: c) ∧ p.Word a ∧ q.Word b ∧ r.Word c := by
  simp only [word_seqAll_cons, word_char_iff]
  constructor
  · rintro ⟨a, _, rfl, ha, _, _, rfl, rfl, b, _, rfl, hb, _, _, rfl, rfl, c, _, rfl, hc, rfl⟩
    exact ⟨a, b, c, by simp, ha, hb, hc⟩
  · rintro ⟨a, b, c, rfl, ha, hb, hc⟩
    exact ⟨a, _, rfl, ha, [mark], _, rfl, rfl, b, _, rfl, hb, [mark], _, rfl, rfl, c, [], by simp, hc,
      rfl⟩

theorem isoDate_occursIn_iff {t : List Char} :
    isoDate.occursIn t = true ↔ ∃ a b c, IsoForm Text.isDecimalDigit t a b c := by
  rw [isoDate, occursIn_whole_iff (by decide) (by decide), word_marked_iff]
  simp only [word_exactly_digit_iff]
  constructor
  · rintro ⟨a, b, c, ht, ⟨hla, ha⟩, ⟨hlb, hb⟩, hlc, hc⟩
    exact ⟨a, b, c, ⟨ht, ha, hb, hc⟩, hla, hlb, hlc⟩
  · rintro ⟨a, b, c, ⟨ht, ha, hb, hc⟩, hla, hlb, hlc⟩
    exact ⟨a, b, c, ht, ⟨hla, ha⟩, ⟨hlb, hb⟩, hlc, hc⟩

private theorem shortDate_occursIn_iff {mark : Char} {t : List Char} :
    (shortDate mark).occursIn t = true ↔ ∃ a b c, ShortForm Text.isDecimalDigit mark t a b c := by
  have hordered : ∀ p ∈ [between digit 1 2, char mark, between digit 1 2, char mark, exactly digit 4],
      p.isOrdered = true := List.all_eq_true.mp rfl
  have hfree : ∀ p ∈ [between digit 1 2, char mark, between digit 1 2, char mark, exactly digit 4],
      p.isFree = true := List.all_eq_true.mp rfl
  rw [shortDate, occursIn_whole_iff hordered hfree, word_marked_iff]
  simp only [word_exactly_digit_iff, word_between_digit_iff]
  constructor
  · rintro ⟨a, b, c, ht, ⟨hla, hla', ha⟩, ⟨hlb, hlb', hb⟩, hlc, hc⟩
    exact ⟨a, b, c, ⟨ht, ha, hb, hc⟩, ⟨hla, hla'⟩, ⟨hlb, hlb'⟩, hlc⟩
  · rintro ⟨a, b, c, ⟨ht, ha, hb, hc⟩, ⟨hla, hla'⟩, ⟨hlb, hlb'⟩, hlc⟩
    exact ⟨a, b, c, ht, ⟨hla, hla', ha⟩, ⟨hlb, hlb', hb⟩, hlc, hc⟩

end Pattern

structure IsReal (y m d : List Char) : Prop where
  year : ∀ c ∈ y, c.isDigit = true
  month : ∀ c ∈ m, c.isDigit = true
  day : ∀ c ∈ d, c.isDigit = true
  isDay : Calendar.IsDay (Decimal.value y) (Decimal.value m) (Decimal.value d)

section Arranges

variable {order : DateOrder} {a b c y m d y' m' d' : List Char}

private theorem DateOrder.Arranges.unique (h : order.Arranges y m d a b c)
    (h' : order.Arranges y' m' d' a b c) : y = y' ∧ m = m' ∧ d = d' := by
  cases h <;> cases h' <;> exact ⟨rfl, rfl, rfl⟩

private theorem DateOrder.Arranges.forall_iff (h : order.Arranges y m d a b c)
    {P : List Char → Prop} : P y ∧ P m ∧ P d ↔ P a ∧ P b ∧ P c := by
  cases h
  all_goals tauto

private theorem DateOrder.Arranges.isDate_iff (h : order.Arranges y m d a b c) :
    order.isDate [a, b, c] = true ↔ IsReal y m d := by
  have hdigits : (!([a, b, c].all (·.all Char.isDigit))) = true ↔
      ¬ ((∀ ch ∈ y, ch.isDigit = true) ∧ (∀ ch ∈ m, ch.isDigit = true) ∧
        ∀ ch ∈ d, ch.isDigit = true) := by
    rw [h.forall_iff (P := fun r => ∀ ch ∈ r, ch.isDigit = true), ← Bool.not_eq_false, not_iff_not]
    simp
  rw [DateOrder.isDate]
  simp only [hdigits]
  split_ifs with hall
  · constructor
    · intro hday
      refine ⟨hall.1, hall.2.1, hall.2.2, ?_⟩
      cases h
      all_goals exact Calendar.isDate_iff.mp hday
    · intro hreal
      cases h
      all_goals exact Calendar.isDate_iff.mpr hreal.isDay
  · simp only [false_iff]
    exact fun hreal => hall ⟨hreal.year, hreal.month, hreal.day⟩

end Arranges

namespace LocaleFormat

/-- What tells the dates of a locale from those of the international form. -/
structure DateMarked (f : LocaleFormat) : Prop where
  not_isDecimalDigit : Text.isDecimalDigit f.dateMark = false
  ne_hyphen : f.dateMark ≠ '-'

private theorem dateMarked_of_mem_all {f : LocaleFormat} (h : f ∈ all) : f.DateMarked := by
  simp only [all, List.mem_cons, List.not_mem_nil, or_false] at h
  rcases h with rfl | rfl | rfl | rfl
  all_goals exact ⟨by decide, by decide⟩

section Dates

variable {f : LocaleFormat} {t y m d y' m' d' : List Char}

private theorem not_isDecimalDigit_hyphen : Text.isDecimalDigit '-' = false := by decide

private theorem not_isoForm_of_shortForm (hf : f.DateMarked) {a b c a' b' c' : List Char}
    (h : ShortForm Text.isDecimalDigit f.dateMark t a b c) :
    ¬ IsoForm Text.isDecimalDigit t a' b' c' := by
  intro h'
  exact h.toRuns.not_mem not_isDecimalDigit_hyphen hf.ne_hyphen.symm h'.toRuns.mem

private theorem WritesDate.unique (hf : f.DateMarked) (h : f.WritesDate Text.isDecimalDigit t y m d)
    (h' : f.WritesDate Text.isDecimalDigit t y' m' d') : y = y' ∧ m = m' ∧ d = d' := by
  cases h with
  | iso h =>
    cases h' with
    | iso h' =>
      have heq := (h.toRuns.parts_eq not_isDecimalDigit_hyphen).symm.trans
        (h'.toRuns.parts_eq not_isDecimalDigit_hyphen)
      simpa using heq
    | short _ h' => exact absurd h (not_isoForm_of_shortForm hf h')
  | short ho h =>
    cases h' with
    | iso h' => exact absurd h' (not_isoForm_of_shortForm hf h)
    | short ho' h' =>
      have heq := (h.toRuns.parts_eq hf.not_isDecimalDigit).symm.trans
        (h'.toRuns.parts_eq hf.not_isDecimalDigit)
      obtain ⟨rfl, rfl, rfl⟩ : _ ∧ _ ∧ _ := by simpa using heq
      exact ho.unique ho'

private theorem writesDate_iff {isDigit : Char → Bool}
    (h : ∀ c, isDigit c = true → Text.isDecimalDigit c = true) :
    f.WritesDate isDigit t y m d ↔ f.WritesDate Text.isDecimalDigit t y m d ∧
      (∀ c ∈ y, isDigit c = true) ∧ (∀ c ∈ m, isDigit c = true) ∧ ∀ c ∈ d, isDigit c = true := by
  constructor
  · intro hw
    cases hw with
    | iso hw => exact ⟨.iso { hw with toRuns := hw.toRuns.mono h }, hw.first, hw.second, hw.third⟩
    | short ho hw =>
      refine ⟨.short ho { hw with toRuns := hw.toRuns.mono h }, ?_⟩
      rw [ho.forall_iff (P := fun r => ∀ c ∈ r, isDigit c = true)]
      exact ⟨hw.first, hw.second, hw.third⟩
  · rintro ⟨hw, hall⟩
    cases hw with
    | iso hw => exact .iso { hw with first := hall.1, second := hall.2.1, third := hall.2.2 }
    | short ho hw =>
      rw [ho.forall_iff (P := fun r => ∀ c ∈ r, isDigit c = true)] at hall
      exact .short ho { hw with first := hall.1, second := hall.2.1, third := hall.2.2 }

private theorem judgeDate_of_writesDate (hf : f.DateMarked) {value : List Char}
    (h : f.WritesDate Text.isDecimalDigit (Text.trim value) y m d) :
    f.judgeDate value = none ∧ IsReal y m d ∨ f.judgeDate value = some 1 ∧ ¬ IsReal y m d := by
  unfold judgeDate
  cases h with
  | iso h =>
    have hreal := (DateOrder.Arranges.yearMonthDay (y := y) (m := m) (d := d)).isDate_iff
    simp only [Pattern.isoDate_occursIn_iff.mpr ⟨y, m, d, h⟩, if_true,
      h.toRuns.parts_eq not_isDecimalDigit_hyphen]
    split_ifs with hd
    · exact .inl ⟨rfl, hreal.mp hd⟩
    · exact .inr ⟨rfl, fun hr => hd (hreal.mpr hr)⟩
  | @short a b c ho h =>
    have hiso : Pattern.isoDate.occursIn (Text.trim value) = false := by
      rw [← Bool.not_eq_true, Pattern.isoDate_occursIn_iff]
      rintro ⟨a', b', c', h'⟩
      exact not_isoForm_of_shortForm hf h h'
    have hreal := ho.isDate_iff
    have hshort := Pattern.shortDate_occursIn_iff.mpr ⟨a, b, c, h⟩
    simp only [hiso, Bool.false_eq_true, if_false, hshort, if_true,
      h.toRuns.parts_eq hf.not_isDecimalDigit]
    split_ifs with hd
    · exact .inl ⟨rfl, hreal.mp hd⟩
    · exact .inr ⟨rfl, fun hr => hd (hreal.mpr hr)⟩

private theorem exists_arranges (order : DateOrder) (a b c : List Char) :
    ∃ y m d, order.Arranges y m d a b c := by
  cases order with
  | yearMonthDay => exact ⟨_, _, _, .yearMonthDay⟩
  | monthDayYear => exact ⟨_, _, _, .monthDayYear⟩
  | dayMonthYear => exact ⟨_, _, _, .dayMonthYear⟩

private theorem judgeDate_of_forall {value : List Char}
    (h : ∀ y m d, ¬ f.WritesDate Text.isDecimalDigit (Text.trim value) y m d) :
    f.judgeDate value = some 0 := by
  have hiso : ¬ Pattern.isoDate.occursIn (Text.trim value) = true := by
    rw [Pattern.isoDate_occursIn_iff]
    rintro ⟨y, m, d, hw⟩
    exact h y m d (.iso hw)
  have hshort : ¬ (Pattern.shortDate f.dateMark).occursIn (Text.trim value) = true := by
    rw [Pattern.shortDate_occursIn_iff]
    rintro ⟨a, b, c, hw⟩
    obtain ⟨y, m, d, ho⟩ := exists_arranges f.dateOrder a b c
    exact h y m d (.short ho hw)
  simp [judgeDate, hiso, hshort]

end Dates

private theorem check?_date (f : LocaleFormat) :
    ∃ check, f.check? .date = some check ∧
      ∀ value, check.judge value = f.judgeDate value.toList := by
  refine ⟨_, rfl, fun value => ?_⟩
  dsimp only

/-- The check of dates in a built-in locale passes the texts that, blanks around them aside, write a
day of the calendar in ASCII digits, in the international form or with the mark and the order of the
locale. It has the fault 0 for texts that are no date in digits of any script, and the fault 1 for
all others. -/
theorem check?_date_iff_writes :
    (all.map fun f => (f.id, f.dateMark, f.dateOrder)) =
      [("en-US", '/', .monthDayYear), ("en-GB", '/', .dayMonthYear), ("de-DE", '.', .dayMonthYear),
        ("fr-FR", '/', .dayMonthYear)] ∧
    ∀ f ∈ all, ∀ code, ∃ check, LocaleSource.standard.check? .date f.id code = some check ∧
      ∀ value : String,
        (check.judge value = none ↔
          ∃ y m d, f.WritesDate Char.isDigit (Text.trim value.toList) y m d ∧
            Calendar.IsDay (Decimal.value y) (Decimal.value m) (Decimal.value d)) ∧
        (check.judge value = some 0 ↔
          ¬ ∃ y m d, f.WritesDate Text.isDecimalDigit (Text.trim value.toList) y m d) ∧
        (check.judge value ≠ none → check.judge value ≠ some 0 → check.judge value = some 1) := by
  refine ⟨rfl, fun f hmem code => ?_⟩
  have hf := dateMarked_of_mem_all hmem
  obtain ⟨check, hcheck, hjudge⟩ := f.check?_date
  refine ⟨check, (standard_check?_eq (find?_id hmem) _ code).trans hcheck, fun value => ?_⟩
  have hascii {y m d : List Char} := writesDate_iff (f := f) (t := Text.trim value.toList) (y := y)
    (m := m) (d := d) fun _ => Text.isDecimalDigit_of_isDigit
  rw [hjudge]
  by_cases hwrites : ∃ y m d, f.WritesDate Text.isDecimalDigit (Text.trim value.toList) y m d
  · obtain ⟨y, m, d, hw⟩ := hwrites
    have hreal : IsReal y m d ↔ ∃ y m d, f.WritesDate Char.isDigit (Text.trim value.toList) y m d ∧
        Calendar.IsDay (Decimal.value y) (Decimal.value m) (Decimal.value d) := by
      constructor
      · intro hr
        exact ⟨y, m, d, hascii.mpr ⟨hw, hr.year, hr.month, hr.day⟩, hr.isDay⟩
      · rintro ⟨y', m', d', hw', hday⟩
        obtain ⟨hw', hy, hm, hd⟩ := hascii.mp hw'
        obtain ⟨rfl, rfl, rfl⟩ := hw.unique hf hw'
        exact ⟨hy, hm, hd, hday⟩
    rw [← hreal]
    have hshape : ∃ y m d, f.WritesDate Text.isDecimalDigit (Text.trim value.toList) y m d :=
      ⟨y, m, d, hw⟩
    rcases judgeDate_of_writesDate hf hw with ⟨h, hr⟩ | ⟨h, hr⟩
    · simp [h, hr, hshape]
    · simp [h, hr, hshape]
  · have h0 := judgeDate_of_forall fun y m d hw => hwrites ⟨y, m, d, hw⟩
    have hnone : ¬ ∃ y m d, f.WritesDate Char.isDigit (Text.trim value.toList) y m d ∧
        Calendar.IsDay (Decimal.value y) (Decimal.value m) (Decimal.value d) := by
      rintro ⟨y, m, d, hw, -⟩
      exact hwrites ⟨y, m, d, (hascii.mp hw).1⟩
    simp [h0, hnone, hwrites]

/-- The last day of February was in the year 2000 and is a date in Arabic digits, but then no day. -/
theorem check?_date_iff_writes_february : german ∈ all ∧
    ∃ check, LocaleSource.standard.check? .date german.id 1 = some check ∧
      check.judge "\t29.2.2000 " = none ∧ check.judge "29.٢.2000" = some 1 := by
  have hmem : german ∈ all := by simp [all]
  obtain ⟨-, hall⟩ := check?_date_iff_writes
  obtain ⟨check, hcheck, hjudge⟩ := hall german hmem 1
  obtain ⟨hnone, -, -⟩ := hjudge "\t29.2.2000 "
  obtain ⟨hnone', hshape, hday⟩ := hjudge "29.٢.2000"
  have hreal : german.WritesDate Char.isDigit (Text.trim "\t29.2.2000 ".toList) "2000".toList
      "2".toList "29".toList :=
    .short .dayMonthYear ⟨⟨rfl, List.all_eq_true.mp rfl, List.all_eq_true.mp rfl,
      List.all_eq_true.mp rfl⟩, by decide, by decide, rfl⟩
  have harabic : german.WritesDate Text.isDecimalDigit (Text.trim "29.٢.2000".toList) "2000".toList
      "٢".toList "29".toList :=
    .short .dayMonthYear ⟨⟨rfl, List.all_eq_true.mp rfl, List.all_eq_true.mp rfl,
      List.all_eq_true.mp rfl⟩, by decide, by decide, rfl⟩
  refine ⟨hmem, check, hcheck, hnone.mpr ⟨_, _, _, hreal, ?_⟩, hday (fun h => ?_) fun h => ?_⟩
  · exact Calendar.isDate_iff.mp rfl
  · obtain ⟨y, m, d, hw, -⟩ := hnone'.mp h
    have hforeign : Char.isDigit '٢' = false := rfl
    cases hw with
    | iso hw | short _ hw => exact absurd (by decide) (hw.toRuns.not_mem hforeign (by decide))
  · exact hshape.mp h ⟨_, _, _, harabic⟩

end LocaleFormat
end TableAudit
