import TableAudit.Proofs.Locale.Dates
import TableAudit.Proofs.Plan.Bounds
import TableAudit.Proofs.Text.Trim

/-! The digits that pass in columns without a locale: those of ASCII in numbers and telephone
numbers, those of any script in dates and amounts. -/
namespace TableAudit

namespace Text

private theorem isDecimalDigit_iff {c : Char} :
    isDecimalDigit c = true ↔ ∃ z ∈ digitZeros, z ≤ c.toNat ∧ c.toNat < z + 10 := by
  simp only [isDecimalDigit, List.any_eq_true, Bool.and_eq_true, decide_eq_true_eq]

private theorem not_isDecimalDigit_of_isBlank {c : Char} (h : isBlank c = true) :
    isDecimalDigit c = false := by
  have hzeros : ∀ z ∈ digitZeros, z = 0x30 ∨ 0xA0 < z ∧ z + 10 ≤ 0x1680 ∨
      0x1680 < z ∧ z + 10 ≤ 0x2000 ∨ 0x3000 < z := by decide
  simp only [isBlank, Bool.or_eq_true, Bool.and_eq_true, decide_eq_true_eq] at h
  rw [← Bool.not_eq_true, isDecimalDigit_iff]
  rintro ⟨z, hz, hle, hlt⟩
  have := hzeros z hz
  omega

/-- All decimal digits of a text are those of ASCII. -/
def AsciiDigits (cs : List Char) : Prop := ∀ c ∈ cs, isDecimalDigit c = true → c.isDigit = true

variable {cs ds : List Char}

private theorem asciiDigits_append : AsciiDigits (cs ++ ds) ↔ AsciiDigits cs ∧ AsciiDigits ds :=
  List.forall_mem_append

private theorem asciiDigits_cons {c : Char} (hc : isDecimalDigit c = false) :
    AsciiDigits (c :: cs) ↔ AsciiDigits cs := by
  rw [AsciiDigits, List.forall_mem_cons, hc]
  simp [AsciiDigits]

private theorem asciiDigits_flatten {blocks : List (List Char)} :
    AsciiDigits blocks.flatten ↔ ∀ b ∈ blocks, AsciiDigits b := by
  simp only [AsciiDigits, List.mem_flatten]
  exact ⟨fun h b hb c hc => h c ⟨b, hb, hc⟩, fun h c ⟨b, hb, hc⟩ => h b hb c hc⟩

private theorem asciiDigits_of_not_any (h : cs.any isDecimalDigit = false) : AsciiDigits cs :=
  fun c hc hdigit => absurd hdigit (List.any_eq_false.mp h c hc)

private theorem asciiDigits_of_blanks (h : Blanks cs) : AsciiDigits cs := by
  apply asciiDigits_of_not_any
  rw [List.any_eq_false]
  intro c hc
  rw [not_isDecimalDigit_of_isBlank (h c hc)]
  exact Bool.false_ne_true

private theorem forall_isDigit_iff : (∀ c ∈ cs, c.isDigit = true) ↔
    (∀ c ∈ cs, isDecimalDigit c = true) ∧ AsciiDigits cs :=
  ⟨fun h => ⟨fun c hc => isDecimalDigit_of_isDigit (h c hc), fun c hc _ => h c hc⟩,
    fun h c hc => h.2 c hc (h.1 c hc)⟩

private theorem asciiDigits_trim : AsciiDigits (trim cs) ↔ AsciiDigits cs := by
  obtain ⟨gap, hgap, hstart⟩ := exists_trimStart cs
  obtain ⟨gap', hgap', hfinish⟩ := exists_trimEnd (trimStart cs)
  conv_rhs => rw [hstart, hfinish]
  rw [asciiDigits_append, asciiDigits_append]
  simp [asciiDigits_of_blanks hgap, asciiDigits_of_blanks hgap', trim]

end Text

open Text (AsciiDigits)

private theorem asciiDigits_of_plainNumber? {value : String} {x : Binary64}
    (h : plainNumber? value = some x) : AsciiDigits value.toList := by
  obtain ⟨htext, hfinite⟩ := Binary64.finiteOfText?_eq_some_iff.mp h
  rw [← Text.asciiDigits_trim]
  intro c hc hdigit
  rcases Binary64.mem_of_ofText? htext hfinite c hc with hascii | hmark
  · exact hascii
  · rcases hmark with rfl | rfl | rfl | rfl | rfl
    all_goals exact absurd hdigit (by decide)

private theorem asciiDigits_of_countDigits? {marks cs : List Char} {n : Nat}
    (hmarks : marks.any Text.isDecimalDigit = false) (h : countDigits? marks cs = some n) :
    AsciiDigits cs := by
  rw [countDigits?] at h
  split_ifs at h with hall
  intro c hc hdigit
  have hmember := List.all_eq_true.mp hall c hc
  rw [Bool.or_eq_true, List.contains_iff_mem] at hmember
  rcases hmember with hascii | hmark
  · exact hascii
  · exact absurd hdigit (List.any_eq_false.mp hmarks c hmark)

private theorem isoForm_iff {t y m d : List Char} : IsoForm Char.isDigit t y m d ↔
    IsoForm Text.isDecimalDigit t y m d ∧ AsciiDigits t := by
  have hmark : Text.isDecimalDigit '-' = false := by decide
  constructor
  · intro h
    refine ⟨{ h with toRuns := h.toRuns.mono fun _ => Text.isDecimalDigit_of_isDigit }, ?_⟩
    rw [h.text_eq, Text.asciiDigits_append, Text.asciiDigits_cons hmark, Text.asciiDigits_append,
      Text.asciiDigits_cons hmark]
    exact ⟨(Text.forall_isDigit_iff.mp h.first).2, (Text.forall_isDigit_iff.mp h.second).2,
      (Text.forall_isDigit_iff.mp h.third).2⟩
  · rintro ⟨h, hascii⟩
    rw [h.text_eq, Text.asciiDigits_append, Text.asciiDigits_cons hmark, Text.asciiDigits_append,
      Text.asciiDigits_cons hmark] at hascii
    obtain ⟨hfirst, hsecond, hthird⟩ := hascii
    exact { h with
      first := Text.forall_isDigit_iff.mpr ⟨h.first, hfirst⟩
      second := Text.forall_isDigit_iff.mpr ⟨h.second, hsecond⟩
      third := Text.forall_isDigit_iff.mpr ⟨h.third, hthird⟩ }

def DigitsBehind (isDigit : Char → Bool) (mark : Char) (m n : Nat) (t : List Char) : Prop :=
  ∃ ds, t = mark :: ds ∧ m ≤ ds.length ∧ ds.length ≤ n ∧ ∀ c ∈ ds, isDigit c = true

inductive PlainWhole (isDigit : Char → Bool) : List Char → Prop
  | run {ds} : ds ≠ [] → (∀ c ∈ ds, isDigit c = true) → PlainWhole isDigit ds
  | grouped {lead blocks} : 1 ≤ lead.length → lead.length ≤ 3 → (∀ c ∈ lead, isDigit c = true) →
      blocks ≠ [] → (∀ b ∈ blocks, DigitsBehind isDigit ',' 3 3 b) →
      PlainWhole isDigit (lead ++ blocks.flatten)

/-- An amount where no locale says otherwise. -/
inductive PlainAmount (isDigit : Char → Bool) : List Char → Prop
  | mk {sign symbol gap whole cents} :
      sign = [] ∨ sign = ['-'] ∨ sign = ['+'] →
      symbol = [] ∨ symbol = ['$'] ∨ symbol = ['€'] ∨ symbol = ['£'] ∨ symbol = ['¥'] →
      gap = [] ∨ (∃ c, gap = [c] ∧ Text.isBlank c = true) →
      PlainWhole isDigit whole → cents = [] ∨ DigitsBehind isDigit '.' 1 2 cents →
      PlainAmount isDigit (sign ++ (symbol ++ (gap ++ (whole ++ cents))))

section Amounts

variable {t : List Char}

namespace Pattern

private theorem word_behind_iff {mark : Char} {m n : Nat} :
    (Pattern.seq (char mark) (between digit m n)).Word t ↔
      DigitsBehind Text.isDecimalDigit mark m n t := by
  simp only [Word, word_char_iff, word_between_digit_iff]
  constructor
  · rintro ⟨_, ds, rfl, rfl, hds⟩
    exact ⟨ds, rfl, hds⟩
  · rintro ⟨ds, rfl, hds⟩
    exact ⟨[mark], ds, rfl, rfl, hds⟩

private theorem word_plainWhole_iff : (Pattern.alt (.seq (between digit 1 3)
      (many (.seq (char ',') (exactly digit 3)))) (many digit)).Word t ↔
    PlainWhole Text.isDecimalDigit t := by
  have hgroups {w : List Char} : (many (.seq (char ',') (exactly digit 3))).Word w ↔
      ∃ blocks : List (List Char), w = blocks.flatten ∧ blocks ≠ [] ∧
        ∀ b ∈ blocks, DigitsBehind Text.isDecimalDigit ',' 3 3 b := by
    simp only [many, ← word_behind_iff, ← List.length_pos_iff]
    constructor
    · rintro ⟨us, rfl, hpos, -, hus⟩
      exact ⟨us, rfl, hpos, hus⟩
    · rintro ⟨us, rfl, hpos, hus⟩
      exact ⟨us, rfl, hpos, by simp, hus⟩
  have hrun {w : List Char} : (many digit).Word w ↔
      w ≠ [] ∧ ∀ c ∈ w, Text.isDecimalDigit c = true := by
    simp only [many, digit, word_times_chars_iff, CharSet.contains_decimalDigits,
      ← List.length_pos_iff]
    simp [Nat.succ_le_iff]
  constructor
  · rintro (⟨lead, _, rfl, hlead, hblocks⟩ | h)
    · obtain ⟨hpos, hle, hdigits⟩ := word_between_digit_iff.mp hlead
      obtain ⟨blocks, rfl, hne, hall⟩ := hgroups.mp hblocks
      exact .grouped hpos hle hdigits hne hall
    · obtain ⟨hne, hdigits⟩ := hrun.mp h
      exact .run hne hdigits
  · intro h
    cases h with
    | run hne hdigits => exact .inr (hrun.mpr ⟨hne, hdigits⟩)
    | grouped hpos hle hdigits hne hall =>
      exact .inl ⟨_, _, rfl, word_between_digit_iff.mpr ⟨hpos, hle, hdigits⟩,
        hgroups.mpr ⟨_, rfl, hne, hall⟩⟩

private theorem plainAmount_occursIn_iff :
    plainAmount.occursIn t = true ↔ PlainAmount Text.isDecimalDigit t := by
  have hsign {u : List Char} : (optional (.alt (char '-') (char '+'))).Word u ↔
      u = [] ∨ u = ['-'] ∨ u = ['+'] := by
    simp only [word_optional_iff, Word, word_char_iff]
  have hsymbol {u : List Char} :
      (optional (.alt (char '$') (.alt (char '€') (.alt (char '£') (char '¥'))))).Word u ↔
      u = [] ∨ u = ['$'] ∨ u = ['€'] ∨ u = ['£'] ∨ u = ['¥'] := by
    simp only [word_optional_iff, Word, word_char_iff]
  have hgap {u : List Char} :
      (optional blank).Word u ↔ u = [] ∨ ∃ c, u = [c] ∧ Text.isBlank c = true := by
    simp only [word_optional_iff, blank, Word, CharSet.contains_blanks]
  rw [plainAmount, occursIn_whole_iff (List.all_eq_true.mp rfl) (List.all_eq_true.mp rfl)]
  simp only [word_seqAll_cons, hsign, hsymbol, hgap, word_plainWhole_iff]
  constructor
  · rintro ⟨sign, _, rfl, h1, symbol, _, rfl, h2, gap, _, rfl, h3, whole, _, rfl, h4, cents, _, rfl,
      h5, rfl⟩
    rw [List.append_nil]
    rw [word_optional_iff, word_behind_iff] at h5
    exact .mk h1 h2 h3 h4 h5
  · rintro ⟨h1, h2, h3, h4, h5⟩
    refine ⟨_, _, rfl, h1, _, _, rfl, h2, _, _, rfl, h3, _, _, rfl, h4, _, [],
      (List.append_nil _).symm, ?_, rfl⟩
    rw [word_optional_iff, word_behind_iff]
    exact h5

end Pattern

private theorem digitsBehind_iff {mark : Char} (hmark : Text.isDecimalDigit mark = false)
    {m n : Nat} : DigitsBehind Char.isDigit mark m n t ↔
      DigitsBehind Text.isDecimalDigit mark m n t ∧ AsciiDigits t := by
  constructor
  · rintro ⟨ds, rfl, hm, hn, hds⟩
    obtain ⟨hds, hascii⟩ := Text.forall_isDigit_iff.mp hds
    exact ⟨⟨ds, rfl, hm, hn, hds⟩, (Text.asciiDigits_cons hmark).mpr hascii⟩
  · rintro ⟨⟨ds, rfl, hm, hn, hds⟩, hascii⟩
    rw [Text.asciiDigits_cons hmark] at hascii
    exact ⟨ds, rfl, hm, hn, Text.forall_isDigit_iff.mpr ⟨hds, hascii⟩⟩

private theorem plainWhole_iff : PlainWhole Char.isDigit t ↔
    PlainWhole Text.isDecimalDigit t ∧ AsciiDigits t := by
  have hblock {b : List Char} := @digitsBehind_iff b ',' (by decide) 3 3
  constructor
  · intro h
    cases h with
    | run hne hds =>
      obtain ⟨hds, hascii⟩ := Text.forall_isDigit_iff.mp hds
      exact ⟨.run hne hds, hascii⟩
    | grouped hpos hle hlead hne hblocks =>
      obtain ⟨hlead, hascii⟩ := Text.forall_isDigit_iff.mp hlead
      refine ⟨.grouped hpos hle hlead hne fun b hb => (hblock.mp (hblocks b hb)).1, ?_⟩
      rw [Text.asciiDigits_append, Text.asciiDigits_flatten]
      exact ⟨hascii, fun b hb => (hblock.mp (hblocks b hb)).2⟩
  · rintro ⟨h, hascii⟩
    cases h with
    | run hne hds => exact .run hne (Text.forall_isDigit_iff.mpr ⟨hds, hascii⟩)
    | grouped hpos hle hlead hne hblocks =>
      rw [Text.asciiDigits_append, Text.asciiDigits_flatten] at hascii
      exact .grouped hpos hle (Text.forall_isDigit_iff.mpr ⟨hlead, hascii.1⟩) hne fun b hb =>
        hblock.mpr ⟨hblocks b hb, hascii.2 b hb⟩

private theorem plainAmount_iff : PlainAmount Char.isDigit t ↔
    PlainAmount Text.isDecimalDigit t ∧ AsciiDigits t := by
  have hcents {b : List Char} := @digitsBehind_iff b '.' (by decide) 1 2
  constructor
  · rintro ⟨h1, h2, h3, h4, h5⟩
    obtain ⟨h4, hascii⟩ := plainWhole_iff.mp h4
    refine ⟨.mk h1 h2 h3 h4 (h5.imp_right fun h => (hcents.mp h).1), ?_⟩
    simp only [Text.asciiDigits_append]
    refine ⟨?_, ?_, ?_, hascii, ?_⟩
    · rcases h1 with rfl | rfl | rfl
      all_goals exact Text.asciiDigits_of_not_any rfl
    · rcases h2 with rfl | rfl | rfl | rfl | rfl
      all_goals exact Text.asciiDigits_of_not_any rfl
    · rcases h3 with rfl | ⟨c, rfl, hblank⟩
      · exact Text.asciiDigits_of_not_any rfl
      · exact Text.asciiDigits_of_blanks (List.forall_mem_singleton.mpr hblank)
    · rcases h5 with rfl | h
      · exact Text.asciiDigits_of_not_any rfl
      · exact (hcents.mp h).2
  · rintro ⟨⟨h1, h2, h3, h4, h5⟩, hascii⟩
    simp only [Text.asciiDigits_append] at hascii
    obtain ⟨-, -, -, hwhole, hcents'⟩ := hascii
    exact .mk h1 h2 h3 (plainWhole_iff.mpr ⟨h4, hwhole⟩)
      (h5.imp_right fun h => hcents.mpr ⟨h, hcents'⟩)

end Amounts

namespace ColumnSpec
variable {c : ColumnSpec} {schemaLocale : Option String} {source : LocaleSource} {p : ColumnPlan}

private theorem validate_eq_zero_iff_accepts (h : c.plan schemaLocale source = .ok p)
    (hlocale : c.locale.or schemaLocale = none) {form : PlainForm}
    (hform : PlainForm.ofType? c.cellType = some form) {value : String} (hv : value ≠ "") :
    p.validate value = 0 ↔ form.accepts value = true ∧
      ∀ r ∈ c.rules, r.isAboutValues = true → r.Met plainNumber? value := by
  have hown : c.ownCheck? schemaLocale source = none := by
    rw [ownCheck?, hlocale]
    exact ite_self none
  rw [(plan_sound h).validate_eq_zero_iff, fault?_eq_none_of_plan h, reader, hown, numberReader_none]
  simp only [mem_demands, hown, typeDemands, hform, Option.toList_some, List.map_cons, List.map_nil,
    List.mem_singleton]
  constructor
  · intro hall
    exact ⟨hall _ (.inr (.inl rfl)) hv,
      fun r hr hvalue => hall _ (.inr (.inr ⟨r, hr, hvalue, rfl⟩)) hv⟩
  · rintro ⟨haccepts, hrules⟩ dm (⟨rfl, -⟩ | rfl | ⟨r, hr, hvalue, rfl⟩)
    · exact hv
    · exact fun _ => haccepts
    · exact fun _ => hrules r hr hvalue

private theorem asciiDigits_of_accepts {form : PlainForm}
    (hform : form = .number ∨ form = .integer ∨ form = .phone) {value : String}
    (h : form.accepts value = true) : AsciiDigits value.toList := by
  rcases hform with rfl | rfl | rfl
  · obtain ⟨x, hx⟩ := Option.isSome_iff_exists.mp h
    exact asciiDigits_of_plainNumber? hx
  · obtain ⟨x, hx, -⟩ := (Option.any_eq_true _ _).mp h
    exact asciiDigits_of_plainNumber? hx
  · obtain ⟨n, hn, -⟩ := (Option.any_eq_true _ _).mp h
    exact asciiDigits_of_countDigits? rfl hn

private theorem validate_date_iff (h : c.plan schemaLocale source = .ok p)
    (hlocale : c.locale.or schemaLocale = none) (htype : c.cellType = .date) {value : String}
    (hv : value ≠ "") :
    p.validate value = 0 ↔ (∃ y m d, IsoForm Text.isDecimalDigit value.toList y m d) ∧
      ∀ r ∈ c.rules, r.isAboutValues = true → r.Met plainNumber? value := by
  have hform : PlainForm.ofType? c.cellType = some .date := by rw [htype]; rfl
  rw [validate_eq_zero_iff_accepts h hlocale hform hv, ← Pattern.isoDate_occursIn_iff]
  rfl

private theorem validate_currency_iff (h : c.plan schemaLocale source = .ok p)
    (hlocale : c.locale.or schemaLocale = none) (htype : c.cellType = .currency) {value : String}
    (hv : value ≠ "") :
    p.validate value = 0 ↔ PlainAmount Text.isDecimalDigit (Text.trim value.toList) ∧
      ∀ r ∈ c.rules, r.isAboutValues = true → r.Met plainNumber? value := by
  have hform : PlainForm.ofType? c.cellType = some .currency := by rw [htype]; rfl
  rw [validate_eq_zero_iff_accepts h hlocale hform hv, ← Pattern.plainAmount_occursIn_iff]
  rfl

private theorem isoForm_arabic : IsoForm Text.isDecimalDigit "٢٠٢٤-٠١-٠١".toList "٢٠٢٤".toList
    "٠١".toList "٠١".toList :=
  ⟨⟨rfl, List.all_eq_true.mp rfl, List.all_eq_true.mp rfl, List.all_eq_true.mp rfl⟩, rfl, rfl, rfl⟩

private theorem plainAmount_arabic : PlainAmount Text.isDecimalDigit (Text.trim "٢".toList) :=
  @PlainAmount.mk _ [] [] [] ['٢'] [] (.inl rfl) (.inl rfl) (.inl rfl)
    (.run (by simp) (List.all_eq_true.mp rfl)) (.inl rfl)

private theorem not_asciiDigits_of_mem {cs : List Char} (hmem : '٢' ∈ cs) : ¬ AsciiDigits cs :=
  fun hascii => absurd (hascii '٢' hmem (by decide)) (by decide)

private theorem exists_other_digits (h : c.plan schemaLocale source = .ok p)
    (hlocale : c.locale.or schemaLocale = none)
    (htype : c.cellType = .date ∨ c.cellType = .currency)
    (hrules : ∀ r ∈ c.rules, r.isAboutValues = false) :
    ∃ value, value ≠ "" ∧ p.validate value = 0 ∧ ¬ AsciiDigits value.toList := by
  have hmet (value : String) :
      ∀ r ∈ c.rules, r.isAboutValues = true → r.Met plainNumber? value := by
    intro r hr hvalue
    cases (hrules r hr).symm.trans hvalue
  rcases htype with htype | htype
  · have hpasses := (validate_date_iff h hlocale htype (by decide)).mpr
      ⟨⟨_, _, _, isoForm_arabic⟩, hmet _⟩
    exact ⟨_, by decide, hpasses, not_asciiDigits_of_mem (by decide)⟩
  · have hpasses := (validate_currency_iff h hlocale htype (by decide)).mpr
      ⟨plainAmount_arabic, hmet _⟩
    exact ⟨_, by decide, hpasses, not_asciiDigits_of_mem (by decide)⟩

/-- In a column without a locale, the numbers, whole numbers and telephone numbers that pass have no
decimal digits but those of ASCII, whatever the other rules are. A date passes if it has four, two
and two decimal digits of any scripts and keeps the other rules, and an amount likewise; they are of
their form in ASCII digits exactly if their digits are. Where no other rule is about values, a date
and an amount in other digits pass. -/
theorem asciiDigits_of_validate (h : c.plan schemaLocale source = .ok p)
    (hlocale : c.locale.or schemaLocale = none) :
    (c.cellType = .number ∨ c.cellType = .integer ∨ c.cellType = .phone →
      ∀ value, value ≠ "" → p.validate value = 0 → AsciiDigits value.toList) ∧
    (c.cellType = .date → ∀ value, value ≠ "" →
      (p.validate value = 0 ↔ (∃ y m d, IsoForm Text.isDecimalDigit value.toList y m d) ∧
        ∀ r ∈ c.rules, r.isAboutValues = true → r.Met plainNumber? value) ∧
      (p.validate value = 0 →
        (AsciiDigits value.toList ↔ ∃ y m d, IsoForm Char.isDigit value.toList y m d))) ∧
    (c.cellType = .currency → ∀ value, value ≠ "" →
      (p.validate value = 0 ↔ PlainAmount Text.isDecimalDigit (Text.trim value.toList) ∧
        ∀ r ∈ c.rules, r.isAboutValues = true → r.Met plainNumber? value) ∧
      (p.validate value = 0 →
        (AsciiDigits value.toList ↔ PlainAmount Char.isDigit (Text.trim value.toList)))) ∧
    (c.cellType = .date ∨ c.cellType = .currency → (∀ r ∈ c.rules, r.isAboutValues = false) →
      ∃ value, value ≠ "" ∧ p.validate value = 0 ∧ ¬ AsciiDigits value.toList) := by
  refine ⟨fun htype value hv h0 => ?numbers,
    fun htype value hv => ⟨validate_date_iff h hlocale htype hv, fun h0 => ?dates⟩,
    fun htype value hv => ⟨validate_currency_iff h hlocale htype hv, fun h0 => ?amounts⟩,
    exists_other_digits h hlocale⟩
  case numbers =>
    have hform {form : PlainForm} (hform : PlainForm.ofType? c.cellType = some form) :=
      ((validate_eq_zero_iff_accepts h hlocale hform hv).mp h0).1
    rcases htype with htype | htype | htype
    · exact asciiDigits_of_accepts (.inl rfl) (hform (by rw [htype]; rfl))
    · exact asciiDigits_of_accepts (.inr (.inl rfl)) (hform (by rw [htype]; rfl))
    · exact asciiDigits_of_accepts (.inr (.inr rfl)) (hform (by rw [htype]; rfl))
  case dates =>
    obtain ⟨⟨y, m, d, hiso⟩, -⟩ := (validate_date_iff h hlocale htype hv).mp h0
    constructor
    · intro hascii
      exact ⟨y, m, d, isoForm_iff.mpr ⟨hiso, hascii⟩⟩
    · rintro ⟨y, m, d, hiso'⟩
      exact (isoForm_iff.mp hiso').2
  case amounts =>
    obtain ⟨hwritten, -⟩ := (validate_currency_iff h hlocale htype hv).mp h0
    rw [plainAmount_iff, Text.asciiDigits_trim]
    exact ⟨fun hascii => ⟨hwritten, hascii⟩, fun hboth => hboth.2⟩

private def dueSpec : ColumnSpec := ⟨"due", .date, [.maxLength 10, .required], none, []⟩

/-- A date in Arabic digits passes, and one with a short month does not. -/
theorem asciiDigits_of_validate_arabic : ∃ p, dueSpec.plan none ⟨fun _ _ _ => none⟩ = .ok p ∧
    p.validate "٢٠٢٤-٠١-٠١" = 0 ∧ ¬ AsciiDigits "٢٠٢٤-٠١-٠١".toList ∧ p.validate "2024-1-01" ≠ 0 := by
  obtain ⟨p, hp⟩ : ∃ p, dueSpec.plan none ⟨fun _ _ _ => none⟩ = .ok p := ⟨_, rfl⟩
  obtain ⟨-, hdates, -, -⟩ := asciiDigits_of_validate hp rfl
  obtain ⟨hpasses, -⟩ := hdates rfl "٢٠٢٤-٠١-٠١" (by decide)
  have hlength : "٢٠٢٤-٠١-٠١".length ≤ 10 := by decide
  have h0 : p.validate "٢٠٢٤-٠١-٠١" = 0 :=
    hpasses.mpr ⟨⟨_, _, _, isoForm_arabic⟩,
      by simpa [dueSpec, Rule.Met, Rule.isAboutValues] using hlength⟩
  refine ⟨p, hp, h0, not_asciiDigits_of_mem (by decide), fun h => ?_⟩
  obtain ⟨⟨y, m, d, hshort⟩, -⟩ := (hdates rfl "2024-1-01" (by decide)).1.mp h
  have hlength := congrArg List.length hshort.text_eq
  simp [hshort.length_first, hshort.length_second, hshort.length_third] at hlength

/-- Not all dates that pass are in ASCII digits. -/
theorem not_asciiDigits_arabic_date : ¬ ∀ (c : ColumnSpec) (schemaLocale : Option String)
    (source : LocaleSource) (p : ColumnPlan), c.plan schemaLocale source = .ok p →
    c.locale.or schemaLocale = none →
    c.cellType ∈ [CellType.number, .integer, .date, .phone, .currency] →
    ∀ value, value ≠ "" → p.validate value = 0 → AsciiDigits value.toList ∧
      (c.cellType = .date → ∃ y m d, IsoForm Char.isDigit value.toList y m d) := by
  intro hall
  obtain ⟨p, hp, hpass⟩ : ∃ p, dueSpec.plan none ⟨fun _ _ _ => none⟩ = .ok p ∧
      p.validate "٢٠٢٤-٠١-٠١" = 0 := ⟨_, rfl, by decide +kernel⟩
  obtain ⟨hascii, -⟩ := hall dueSpec none _ p hp rfl (by decide) "٢٠٢٤-٠١-٠١" (by decide) hpass
  exact not_asciiDigits_of_mem (by decide) hascii

end ColumnSpec
end TableAudit
