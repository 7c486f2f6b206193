import TableAudit.Plan.Test
import TableAudit.Proofs.Locale.Numbers
import TableAudit.Proofs.Text.Lower

/-! Words for true and false in the built-in locales, in any ASCII case. -/
namespace TableAudit

namespace PlainForm

private theorem accepts_boolean_iff {value : String} : boolean.accepts value = true ↔
    ∃ w ∈ truthWords, Text.SameLetters value.toList w.toList := by
  have hlower : ∀ w ∈ truthWords, w.toList.map Char.toLower = w.toList := by decide
  simp only [accepts, List.any_eq_true, decide_eq_true_eq]
  refine exists_congr fun w => and_congr_right fun hw => ?_
  rw [Text.SameLetters, hlower w hw]

private theorem trim_of_accepts_boolean {value : String} (h : boolean.accepts value = true) :
    Text.trim value.toList = value.toList := by
  have hblank : ∀ w ∈ truthWords, w.toList.any Text.isBlank = false := by decide
  obtain ⟨w, hw, hsame⟩ := accepts_boolean_iff.mp h
  have hword : ∀ d ∈ w.toList, Text.isBlank d = false := fun d hd =>
    Bool.eq_false_iff.mpr (List.any_eq_false.mp (hblank w hw) d hd)
  apply Text.trim_eq_self
  apply hsame.forall_mem _ hword
  intro c
  rw [Text.isBlank_toLower]

end PlainForm

namespace LocaleFormat

variable {f : LocaleFormat} {w : String}

private theorem word_of_mem_all (hf : f ∈ all) (hw : w ∈ f.trueWords ++ f.falseWords) :
    (∀ d ∈ w.toList, d.toNat < 128 ∧ d ≠ 'k') ∧ w.toList.map Char.toLower = w.toList := by
  have htable : ∀ f ∈ all, ∀ w ∈ f.trueWords ++ f.falseWords,
      (w.toList.all fun d => d.toNat < 128 ∧ d ≠ 'k') = true ∧
        w.toList.map Char.toLower = w.toList := by decide
  obtain ⟨hascii, hlower⟩ := htable f hf w hw
  exact ⟨fun d hd => of_decide_eq_true (List.all_eq_true.mp hascii d hd), hlower⟩

private theorem isTruthWord_iff (hf : f ∈ all) {cs : List Char} : f.isTruthWord cs = true ↔
    ∃ w ∈ f.trueWords ++ f.falseWords, Text.SameLetters (Text.trim cs) w.toList := by
  rw [isTruthWord, List.contains_iff_mem]
  have hword {w : String} (hw : w ∈ f.trueWords ++ f.falseWords) :
      String.ofList (Text.lower (Text.trim cs)) = w ↔
        Text.SameLetters (Text.trim cs) w.toList := by
    obtain ⟨hascii, hlower⟩ := word_of_mem_all hf hw
    rw [Text.SameLetters, hlower, ← Text.lower_eq_iff hascii, ← String.toList_inj,
      String.toList_ofList]
  constructor
  · intro hmem
    exact ⟨_, hmem, (hword hmem).mp rfl⟩
  · rintro ⟨w, hw, hsame⟩
    rw [(hword hw).mpr hsame]
    exact hw

private theorem check?_boolean (f : LocaleFormat) : ∃ check, f.check? .boolean = some check ∧
    ∀ value, check.judge value = if f.isTruthWord value.toList then none else some 0 := by
  refine ⟨_, rfl, fun value => ?_⟩
  dsimp only [simpleCheck]

/-- The check of words in a built-in locale passes the texts that, blanks around them aside, are
words of the locale in any case of their ASCII letters. They are of ASCII, whatever other characters
have the letters as lowercase, and in English those that pass without a locale are among them. It
has the fault 0 for all other texts. -/
theorem check?_boolean_iff_word :
    (all.map fun f => (f.id, f.trueWords, f.falseWords)) =
      [("en-US", ["true", "yes", "y", "1"], ["false", "no", "n", "0"]),
        ("en-GB", ["true", "yes", "y", "1"], ["false", "no", "n", "0"]),
        ("de-DE", ["wahr", "ja", "j", "true", "1"], ["falsch", "nein", "n", "false", "0"]),
        ("fr-FR", ["vrai", "oui", "o", "true", "1"], ["faux", "non", "n", "false", "0"])] ∧
    ∀ f ∈ all, ∀ code, ∃ check, LocaleSource.standard.check? .boolean f.id code = some check ∧
      ∀ value : String,
        (check.judge value = none ↔
          ∃ w ∈ f.trueWords ++ f.falseWords, Text.SameLetters (Text.trim value.toList) w.toList) ∧
        (check.judge value ≠ none → check.judge value = some 0) ∧
        (check.judge value = none → Text.Ascii (Text.trim value.toList)) ∧
        (f = american ∨ f = british → PlainForm.boolean.accepts value = true →
          check.judge value = none) := by
  refine ⟨rfl, fun f hmem code => ?_⟩
  obtain ⟨check, hcheck, hjudge⟩ := f.check?_boolean
  refine ⟨check, (standard_check?_eq (find?_id hmem) _ code).trans hcheck, fun value => ?_⟩
  have hword : check.judge value = none ↔
      ∃ w ∈ f.trueWords ++ f.falseWords, Text.SameLetters (Text.trim value.toList) w.toList := by
    rw [hjudge, ← isTruthWord_iff hmem]
    cases f.isTruthWord value.toList <;> simp
  refine ⟨hword, fun hne => ?fault, fun hnone => ?ascii, fun henglish haccepts => ?plain⟩
  case fault =>
    rw [hjudge] at hne ⊢
    split at hne
    · exact absurd rfl hne
    · next hno => rw [if_neg hno]
  case ascii =>
    obtain ⟨w, hw, hsame⟩ := hword.mp hnone
    have hascii := (word_of_mem_all hmem hw).1
    exact hsame.forall_mem (fun _ => Text.toLower_lt_iff) fun d hd => (hascii d hd).1
  case plain =>
    have hwords : ∀ w ∈ PlainForm.truthWords, w ∈ f.trueWords ++ f.falseWords := by
      rcases henglish with rfl | rfl
      all_goals decide
    obtain ⟨w, hw, hsame⟩ := PlainForm.accepts_boolean_iff.mp haccepts
    refine hword.mpr ⟨w, hwords w hw, ?_⟩
    rwa [PlainForm.trim_of_accepts_boolean haccepts]

/-- The lowercase of a dotted capital is no single letter, and a long `s` is no `s`. -/
theorem check?_boolean_iff_word_capitals : german ∈ all ∧ british ∈ all ∧
    ∃ check, LocaleSource.standard.check? .boolean german.id 1 = some check ∧
      check.judge "\u00a0NeiN\n" = none ∧ check.judge "NEİN" = some 0 ∧
      check.judge "falſch" = some 0 ∧
      ∃ check', LocaleSource.standard.check? .boolean british.id 1 = some check' ∧
        check'.judge "YeS" = none ∧ check'.judge "ja" = some 0 := by
  have hgerman : german ∈ all := by simp [all]
  have hbritish : british ∈ all := by simp [all]
  obtain ⟨-, hall⟩ := check?_boolean_iff_word
  obtain ⟨check, hcheck, hjudge⟩ := hall german hgerman 1
  obtain ⟨check', hcheck', hjudge'⟩ := hall british hbritish 1
  obtain ⟨hpass, -⟩ := hjudge "\u00a0NeiN\n"
  obtain ⟨-, hdotted, hascii, -⟩ := hjudge "NEİN"
  obtain ⟨-, hlong, hascii', -⟩ := hjudge "falſch"
  obtain ⟨-, -, -, hplain⟩ := hjudge' "YeS"
  obtain ⟨hpass', hfault', -, -⟩ := hjudge' "ja"
  refine ⟨hgerman, hbritish, check, hcheck, hpass.mpr ⟨"nein", by decide, by decide⟩,
    hdotted fun hnone => ?_, hlong fun hnone => ?_, check', hcheck', hplain (.inr rfl) (by decide),
    hfault' fun hnone => ?_⟩
  · exact absurd (hascii hnone 'İ' (by decide)) (by decide)
  · exact absurd (hascii' hnone 'ſ' (by decide)) (by decide)
  · exact absurd (hpass'.mp hnone) (by decide)

end LocaleFormat
end TableAudit
