import Mathlib.Data.List.Basic
import TableAudit.Proofs.Locale.Numbers
import TableAudit.Proofs.Text.Trim

/-! The grammar of amounts of money in the built-in locales, and the check that reads it. -/
namespace TableAudit

namespace LocaleFormat

/-- An amount without a sign and the plain numeral of its number: with a currency symbol on one side
and blanks between them, or alone. -/
inductive Amount (f : LocaleFormat) : List Char → List Char → Prop
  | bare {cs plain} : f.Unsigned cs plain → Amount f cs plain
  | before {s gap cs plain} : s ∈ f.symbols → Text.Blanks gap → f.Unsigned cs plain →
      Amount f (s.toList ++ (gap ++ cs)) plain
  | behind {s gap cs plain} : s ∈ f.symbols → Text.Blanks gap → f.Unsigned cs plain →
      Amount f (cs ++ (gap ++ s.toList)) plain

/-- An amount with or without a sign, which may have blanks behind it. -/
inductive SpellsAmount (f : LocaleFormat) : List Char → List Char → Prop
  | bare {cs plain} : f.Amount cs plain → SpellsAmount f cs plain
  | plus {gap cs plain} : Text.Blanks gap → f.Amount cs plain →
      SpellsAmount f ('+' :: (gap ++ cs)) plain
  | minus {gap cs plain} : Text.Blanks gap → f.Amount cs plain →
      SpellsAmount f ('-' :: (gap ++ cs)) plain

def isPlain (f : LocaleFormat) (c : Char) : Bool :=
  c.isDigit || c = f.decimal || f.groups.contains c || Text.isBlank c || c = '+' || c = '-'

/-- What tells the currency symbols of a locale from numbers, and from each other. -/
structure Priced (f : LocaleFormat) : Prop where
  ne_nil : ∀ s ∈ f.symbols, s.toList ≠ []
  not_isPlain : ∀ s ∈ f.symbols, ∀ c ∈ s.toList, f.isPlain c = false
  /-- No symbol begins with one that is tried before it. -/
  front : ∀ s ∈ f.symbols, f.symbols.find? (fun w => w.toList.isPrefixOf s.toList) = some s
  /-- No symbol ends with one that is tried before it. -/
  back : ∀ s ∈ f.symbols, f.symbols.find? (fun w => w.toList.isSuffixOf s.toList) = some s
  once : ∀ w ∈ f.symbols, ∀ s ∈ f.symbols, ∀ s' ∈ f.symbols,
    ¬ (s.toList ++ s'.toList).Sublist w.toList
  others : ∀ g ∈ all, ∀ s ∈ g.symbols, s ∉ f.symbols → s.toList ≠ [] ∧
    (∀ c ∈ s.toList, f.isPlain c = false) ∧ ∀ w ∈ f.symbols, ¬ s.toList.Sublist w.toList

private theorem priced_of_mem_all {f : LocaleFormat} (h : f ∈ all) : f.Priced := by
  have hplain : ∀ g ∈ all, ∀ s ∈ g.symbols, ∀ c ∈ s.toList, f.isPlain c = false := by
    have hall : (all.all fun f => all.all fun g => g.symbols.all fun s =>
        s.toList.all fun c => !f.isPlain c) = true := rfl
    simpa using List.all_eq_true.mp hall f h
  have hown := hplain f h
  simp only [all, List.mem_cons, List.not_mem_nil, or_false] at h
  have hothers : ∀ g ∈ all, ∀ s ∈ g.symbols, s ∉ f.symbols →
      s.toList ≠ [] ∧ ∀ w ∈ f.symbols, ¬ s.toList.Sublist w.toList := by
    rcases h with rfl | rfl | rfl | rfl
    all_goals decide
  refine ⟨?ne_nil, hown, ?front, ?back, ?once, fun g hg s hs hother =>
    ⟨(hothers g hg s hs hother).1, hplain g hg s hs, (hothers g hg s hs hother).2⟩⟩
  all_goals
    rcases h with rfl | rfl | rfl | rfl
    all_goals decide

section Unsigned

variable {f : LocaleFormat} {cs plain : List Char} {c : Char}

private theorem isPlain_iff : f.isPlain c = true ↔
    c.isDigit = true ∨ c = f.decimal ∨ c ∈ f.groups ∨ Text.isBlank c = true ∨ c = '+' ∨ c = '-' := by
  simp [isPlain, or_assoc]

private theorem Unsigned.isPlain (h : f.Unsigned cs plain) : ∀ c ∈ cs, f.isPlain c = true := by
  intro c hc
  rw [isPlain_iff]
  exact (h.mem hc).imp_right (·.imp_right .inl)

private theorem Unsigned.head (h : f.Unsigned cs plain) :
    ∃ c r, cs = c :: r ∧ (c.isDigit = true ∨ c = f.decimal) := by
  have hwhole {w ds : List Char} (hw : f.Whole w ds) : ∃ c r, w = c :: r ∧ c.isDigit = true := by
    cases hw with
    | run hne hds =>
      obtain ⟨d, r, rfl⟩ := List.exists_cons_of_ne_nil hne
      exact ⟨d, r, rfl, hds d List.mem_cons_self⟩
    | grouped hpos _ hlead =>
      obtain ⟨d, r, rfl⟩ := List.exists_cons_of_ne_nil (List.length_pos_iff.mp hpos)
      exact ⟨d, _, rfl, hlead d List.mem_cons_self⟩
  cases h with
  | whole hw =>
    obtain ⟨c, r, rfl, hc⟩ := hwhole hw
    exact ⟨c, r, rfl, .inl hc⟩
  | both hw =>
    obtain ⟨c, r, rfl, hc⟩ := hwhole hw
    exact ⟨c, _, rfl, .inl hc⟩
  | fraction => exact ⟨_, _, rfl, .inr rfl⟩

private theorem exists_last_of_isDigit (hne : cs ≠ []) (h : ∀ c ∈ cs, c.isDigit = true)
    (front : List Char) : ∃ d, (front ++ cs).getLast? = some d ∧ d.isDigit = true := by
  refine ⟨cs.getLast hne, ?_, h _ (List.getLast_mem hne)⟩
  rw [List.getLast?_append_of_ne_nil _ hne, List.getLast?_eq_some_getLast hne]

private theorem Blocks.last (h : f.Blocks cs plain) (hne : cs ≠ []) :
    ∃ d, cs.getLast? = some d ∧ d.isDigit = true := by
  induction h with
  | nil => exact absurd rfl hne
  | @cons m block cs ds _ hlen hblock _ ih =>
    by_cases hcs : cs = []
    · have hblock' : block ≠ [] := List.ne_nil_of_length_eq_add_one hlen
      rw [hcs, List.append_nil]
      exact exists_last_of_isDigit hblock' hblock [m]
    · rw [← List.cons_append, List.getLast?_append_of_ne_nil _ hcs]
      exact ih hcs

private theorem Unsigned.last (h : f.Unsigned cs plain) :
    ∃ d, cs.getLast? = some d ∧ d.isDigit = true := by
  cases h with
  | whole hw =>
    cases hw with
    | run hne hds => exact exists_last_of_isDigit hne hds []
    | grouped _ _ _ hne hblocks =>
      rw [List.getLast?_append_of_ne_nil _ hne]
      exact hblocks.last hne
  | @both w _ fs _ hfs =>
    have := exists_last_of_isDigit hfs.1 hfs.2 (w ++ [f.decimal])
    rwa [List.append_assoc] at this
  | fraction hfs => exact exists_last_of_isDigit hfs.1 hfs.2 [f.decimal]

private theorem Unsigned.ne_nil (h : f.Unsigned cs plain) : cs ≠ [] := by
  obtain ⟨c, r, rfl, -⟩ := h.head
  simp

private theorem Unsigned.trimmed (hf : f.Marked) (h : f.Unsigned cs plain) : Text.Trimmed cs := by
  constructor
  · obtain ⟨c, r, rfl, hc⟩ := h.head
    rintro _ ⟨⟩
    rcases hc with hc | rfl
    · exact Text.not_isBlank_of_isDigit hc
    · exact hf.decimal_not_isBlank
  · obtain ⟨d, hlast, hd⟩ := h.last
    intro c hc
    obtain rfl : d = c := Option.some.inj (hlast.symm.trans hc)
    exact Text.not_isBlank_of_isDigit hd

end Unsigned

section Symbols

variable {p : Char → Bool} {w s r cs : List Char}

private theorem prefix_append_iff (hw : ∀ c ∈ w, p c = false) (hr : ∀ c ∈ r, p c = true) :
    w <+: s ++ r ↔ w <+: s := by
  refine ⟨fun h => ?_, fun h => h.trans (List.prefix_append s r)⟩
  rcases List.prefix_or_prefix_of_prefix h (List.prefix_append s r) with hws | ⟨w', rfl⟩
  · exact hws
  · rw [List.prefix_append_right_inj] at h
    cases w' with
    | nil => simp
    | cons c w' =>
      have hplain := hr c (h.subset List.mem_cons_self)
      rw [hw c (by simp)] at hplain
      cases hplain

private theorem suffix_append_iff (hw : ∀ c ∈ w, p c = false) (hr : ∀ c ∈ r, p c = true) :
    w <:+ r ++ s ↔ w <:+ s := by
  rw [← List.reverse_prefix, List.reverse_append,
    prefix_append_iff (p := p) (by simpa using hw) (by simpa using hr), List.reverse_prefix]

private theorem not_prefix_append (hw : ∀ c ∈ w, p c = false) (hne : w ≠ [])
    (hr : ∀ c ∈ r, p c = true) (hr' : r ≠ []) : ¬ w <+: r ++ s := by
  obtain ⟨c, w, rfl⟩ := List.exists_cons_of_ne_nil hne
  obtain ⟨d, r, rfl⟩ := List.exists_cons_of_ne_nil hr'
  rw [List.cons_append, List.cons_prefix_cons]
  rintro ⟨rfl, -⟩
  have hplain := hr c List.mem_cons_self
  rw [hw c List.mem_cons_self] at hplain
  cases hplain

private theorem not_suffix_append (hw : ∀ c ∈ w, p c = false) (hne : w ≠ [])
    (hr : ∀ c ∈ r, p c = true) (hr' : r ≠ []) : ¬ w <:+ s ++ r := by
  rw [← List.reverse_prefix, List.reverse_append]
  exact not_prefix_append (p := p) (by simpa using hw) (by simpa using hne) (by simpa using hr)
    (by simpa using hr')

private theorem of_dropWord? (h : dropWord? w cs = some r) :
    (∃ gap, Text.Blanks gap ∧ cs = w ++ (gap ++ r)) ∨
      ∃ gap, Text.Blanks gap ∧ cs = r ++ (gap ++ w) := by
  rw [dropWord?] at h
  split_ifs at h with hfront hback
  · obtain ⟨rest, rfl⟩ := List.isPrefixOf_iff_prefix.mp hfront
    rw [List.drop_left] at h
    cases h
    obtain ⟨gap, hgap, hrest⟩ := Text.exists_trimStart rest
    exact .inl ⟨gap, hgap, by rw [← hrest]⟩
  · obtain ⟨rest, rfl⟩ := List.isSuffixOf_iff_suffix.mp hback
    rw [List.length_append, Nat.add_sub_cancel, List.take_left] at h
    cases h
    obtain ⟨gap, hgap, hrest⟩ := Text.exists_trimEnd rest
    exact .inr ⟨gap, hgap, by rw [← List.append_assoc, ← hrest]⟩

private theorem trimmed_of_dropWord? (hcs : Text.Trimmed cs) (h : dropWord? w cs = some r) :
    Text.Trimmed r := by
  rw [dropWord?] at h
  split_ifs at h with hfront hback
  · obtain ⟨rest, rfl⟩ := List.isPrefixOf_iff_prefix.mp hfront
    rw [List.drop_left] at h
    cases h
    exact Text.trimmed_trimStart (Text.last_of_append hcs.last)
  · obtain ⟨rest, rfl⟩ := List.isSuffixOf_iff_suffix.mp hback
    rw [List.length_append, Nat.add_sub_cancel, List.take_left] at h
    cases h
    exact Text.trimmed_trimEnd (Text.head_of_append hcs.head)

private theorem dropWord?_append (w r : List Char) :
    dropWord? w (w ++ r) = some (Text.trimStart r) := by
  rw [dropWord?, if_pos (List.isPrefixOf_iff_prefix.mpr (List.prefix_append w r)), List.drop_left]

private theorem dropWord?_append_behind (h : ¬ w <+: r ++ w) :
    dropWord? w (r ++ w) = some (Text.trimEnd r) := by
  rw [dropWord?, if_neg (mt List.isPrefixOf_iff_prefix.mp h),
    if_pos (List.isSuffixOf_iff_suffix.mpr (List.suffix_append r w)), List.length_append,
    Nat.add_sub_cancel, List.take_left]

private theorem dropWord?_eq_none (hfront : ¬ w <+: cs) (hback : ¬ w <:+ cs) :
    dropWord? w cs = none := by
  rw [dropWord?, if_neg (mt List.isPrefixOf_iff_prefix.mp hfront),
    if_neg (mt List.isSuffixOf_iff_suffix.mp hback)]

end Symbols

section Amounts

variable {f : LocaleFormat} {cs gap r plain : List Char} {s : String}

def withoutSymbol (f : LocaleFormat) (cs : List Char) : List Char :=
  (f.symbols.findSome? fun s => dropWord? s.toList cs).getD cs

private theorem withoutSymbol_eq {p : String → Bool} (hs : f.symbols.find? p = some s)
    (hother : ∀ w ∈ f.symbols, p w = false → dropWord? w.toList cs = none)
    (hdrop : dropWord? s.toList cs = some r) : f.withoutSymbol cs = r := by
  obtain ⟨-, before, behind, heq, hbefore⟩ := List.find?_eq_some_iff_append.mp hs
  have hfirst : f.symbols.findSome? (fun s => dropWord? s.toList cs) = some r := by
    refine List.findSome?_eq_some_iff.mpr ⟨before, s, behind, heq, hdrop, fun w hw => ?_⟩
    exact hother w (by simp [heq, hw]) (by simpa using hbefore w hw)
  rw [withoutSymbol, hfirst]
  rfl

private theorem isPlain_of_blanks (h : Text.Blanks gap) : ∀ c ∈ gap, f.isPlain c = true :=
  fun c hc => isPlain_iff.mpr (.inr (.inr (.inr (.inl (h c hc)))))

private theorem Amount.withoutSymbol (hf : f.Marked) (hp : f.Priced) (h : f.Amount cs plain) :
    f.Unsigned (f.withoutSymbol cs) plain := by
  cases h with
  | bare h =>
    have hnone : f.symbols.findSome? (fun s => dropWord? s.toList cs) = none := by
      rw [List.findSome?_eq_none_iff]
      intro w hw
      have hw' := hp.not_isPlain w hw
      have hfront := not_prefix_append (s := []) hw' (hp.ne_nil w hw) h.isPlain h.ne_nil
      have hback := not_suffix_append (s := []) hw' (hp.ne_nil w hw) h.isPlain h.ne_nil
      rw [List.append_nil] at hfront
      exact dropWord?_eq_none hfront hback
    rwa [LocaleFormat.withoutSymbol, hnone]
  | @before s gap cs _ hs hgap h =>
    have hplain : ∀ c ∈ gap ++ cs, f.isPlain c = true :=
      List.forall_mem_append.mpr ⟨isPlain_of_blanks hgap, h.isPlain⟩
    rwa [withoutSymbol_eq (hp.front s hs) (fun w hw hwp => ?_) (dropWord?_append _ _),
      Text.trimStart_append hgap (h.trimmed hf).head]
    refine dropWord?_eq_none ?_ ?_
    · rw [prefix_append_iff (hp.not_isPlain w hw) hplain, ← List.isPrefixOf_iff_prefix, hwp]
      exact Bool.false_ne_true
    · rw [← List.append_assoc]
      exact not_suffix_append (hp.not_isPlain w hw) (hp.ne_nil w hw) h.isPlain h.ne_nil
  | @behind s gap cs _ hs hgap h =>
    have hplain : ∀ c ∈ cs ++ gap, f.isPlain c = true :=
      List.forall_mem_append.mpr ⟨h.isPlain, isPlain_of_blanks hgap⟩
    have hfront (w : String) (hw : w ∈ f.symbols) : ¬ w.toList <+: cs ++ gap ++ s.toList := by
      rw [List.append_assoc]
      exact not_prefix_append (hp.not_isPlain w hw) (hp.ne_nil w hw) h.isPlain h.ne_nil
    rwa [← List.append_assoc, withoutSymbol_eq (hp.back s hs) (fun w hw hwp => ?_)
      (dropWord?_append_behind (hfront s hs)), Text.trimEnd_append hgap (h.trimmed hf).last]
    refine dropWord?_eq_none (hfront w hw) ?_
    rw [suffix_append_iff (hp.not_isPlain w hw) hplain, ← List.isSuffixOf_iff_suffix, hwp]
    exact Bool.false_ne_true

private theorem amount_iff (hf : f.Marked) (hp : f.Priced) :
    f.Amount cs plain ↔ f.Unsigned (f.withoutSymbol cs) plain := by
  refine ⟨Amount.withoutSymbol hf hp, fun h => ?_⟩
  rw [LocaleFormat.withoutSymbol] at h
  cases hfirst : f.symbols.findSome? fun s => dropWord? s.toList cs with
  | none =>
    rw [hfirst] at h
    exact .bare h
  | some r =>
    rw [hfirst] at h
    obtain ⟨s, hs, hdrop⟩ := List.exists_of_findSome?_eq_some hfirst
    rcases of_dropWord? hdrop with ⟨gap, hgap, rfl⟩ | ⟨gap, hgap, rfl⟩
    · exact .before hs hgap h
    · exact .behind hs hgap h

private theorem trimmed_withoutSymbol (h : Text.Trimmed cs) :
    Text.Trimmed (f.withoutSymbol cs) := by
  rw [LocaleFormat.withoutSymbol]
  cases hfirst : f.symbols.findSome? fun s => dropWord? s.toList cs with
  | none => exact h
  | some r =>
    obtain ⟨s, -, hdrop⟩ := List.exists_of_findSome?_eq_some hfirst
    exact trimmed_of_dropWord? h hdrop

end Amounts

section Signs

variable {f : LocaleFormat} {cs plain : List Char}

def takeSign : List Char → Bool × List Char
  | '-' :: r => (true, Text.trimStart r)
  | '+' :: r => (false, Text.trimStart r)
  | r => (false, r)

private theorem trimmed_takeSign (h : Text.Trimmed cs) : Text.Trimmed (takeSign cs).2 := by
  have hbehind {c : Char} {r : List Char} (h : Text.Trimmed (c :: r)) :
      Text.Trimmed (Text.trimStart r) :=
    Text.trimmed_trimStart (@Text.last_of_append [c] r h.last)
  rw [takeSign.eq_def]
  split
  · exact hbehind h
  · exact hbehind h
  · exact h

private theorem Unsigned.not_sign (hf : f.Marked) (h : f.Unsigned cs plain) :
    ∀ c ∈ cs, c ≠ '+' ∧ c ≠ '-' := by
  intro c hc
  rcases h.mem hc with hdigit | rfl | hgroup
  · exact ⟨ne_of_isDigit hdigit rfl, ne_of_isDigit hdigit rfl⟩
  · exact ⟨hf.decimal_ne_plus, hf.decimal_ne_minus⟩
  · exact ⟨ne_of_mem_of_not_mem hgroup hf.plus_not_mem, ne_of_mem_of_not_mem hgroup hf.minus_not_mem⟩

private theorem Priced.not_sign (hp : f.Priced) {s : String} (hs : s ∈ f.symbols) :
    ∀ c ∈ s.toList, c ≠ '+' ∧ c ≠ '-' := by
  intro c hc
  have hplain := hp.not_isPlain s hs c hc
  constructor
  all_goals
    rintro rfl
    simp [LocaleFormat.isPlain] at hplain

private theorem not_sign_of_blanks {gap : List Char} (h : Text.Blanks gap) :
    ∀ c ∈ gap, c ≠ '+' ∧ c ≠ '-' := by
  intro c hc
  have hblank := h c hc
  constructor
  all_goals
    rintro rfl
    exact absurd hblank (by decide)

private theorem Amount.not_sign (hf : f.Marked) (hp : f.Priced) (h : f.Amount cs plain) :
    ∀ c ∈ cs, c ≠ '+' ∧ c ≠ '-' := by
  cases h with
  | bare h => exact h.not_sign hf
  | before hs hgap h =>
    exact List.forall_mem_append.mpr
      ⟨hp.not_sign hs, List.forall_mem_append.mpr ⟨not_sign_of_blanks hgap, h.not_sign hf⟩⟩
  | behind hs hgap h =>
    exact List.forall_mem_append.mpr
      ⟨h.not_sign hf, List.forall_mem_append.mpr ⟨not_sign_of_blanks hgap, hp.not_sign hs⟩⟩

private theorem Amount.head (hf : f.Marked) (hp : f.Priced) (h : f.Amount cs plain) :
    ∃ c r, cs = c :: r ∧ Text.isBlank c = false := by
  have hunsigned {cs : List Char} (h : f.Unsigned cs plain) :
      ∃ c r, cs = c :: r ∧ Text.isBlank c = false := by
    obtain ⟨c, r, rfl⟩ := List.exists_cons_of_ne_nil h.ne_nil
    exact ⟨c, r, rfl, (h.trimmed hf).head c rfl⟩
  cases h with
  | bare h => exact hunsigned h
  | @before s _ _ _ hs =>
    obtain ⟨c, r, heq⟩ := List.exists_cons_of_ne_nil (hp.ne_nil s hs)
    have hplain := hp.not_isPlain s hs c (by simp [heq])
    refine ⟨c, _, by rw [heq, List.cons_append], ?_⟩
    rw [← Bool.not_eq_true]
    intro hblank
    rw [isPlain_iff.mpr (.inr (.inr (.inr (.inl hblank))))] at hplain
    cases hplain
  | behind _ _ h =>
    obtain ⟨c, r, rfl, hc⟩ := hunsigned h
    exact ⟨c, _, rfl, hc⟩

private theorem spellsAmount_iff (hf : f.Marked) (hp : f.Priced) :
    f.SpellsAmount cs plain ↔ f.Amount (takeSign cs).2 plain := by
  constructor
  · intro h
    have hbehind {gap cs : List Char} (hgap : Text.Blanks gap) (h : f.Amount cs plain) :
        f.Amount (Text.trimStart (gap ++ cs)) plain := by
      obtain ⟨c, r, rfl, hc⟩ := h.head hf hp
      rwa [Text.trimStart_append hgap (by rintro _ ⟨⟩; exact hc)]
    cases h with
    | bare h =>
      obtain ⟨c, r, rfl, -⟩ := h.head hf hp
      obtain ⟨hplus, hminus⟩ := h.not_sign hf hp c List.mem_cons_self
      rw [takeSign.eq_def]
      split
      · next heq => exact absurd (List.cons.inj heq).1 hminus
      · next heq => exact absurd (List.cons.inj heq).1 hplus
      · exact h
    | plus hgap h => exact hbehind hgap h
    | minus hgap h => exact hbehind hgap h
  · intro h
    rw [takeSign.eq_def] at h
    split at h
    · next r =>
      obtain ⟨gap, hgap, heq⟩ := Text.exists_trimStart r
      rw [heq]
      exact .minus hgap h
    · next r =>
      obtain ⟨gap, hgap, heq⟩ := Text.exists_trimStart r
      rw [heq]
      exact .plus hgap h
    · exact .bare h

end Signs

section Reading

variable {f : LocaleFormat} {cs plain value : List Char}

private theorem unsigned_iff_readNumber (hf : f.Marked) (hcs : Text.Trimmed cs) {x : Binary64} :
    (∃ plain, f.Unsigned cs plain ∧ Binary64.ofText? plain = some x ∧ x.isFinite = true) ↔
      (∀ c ∈ cs.head?, c ≠ '+' ∧ c ≠ '-') ∧ f.readNumber cs = some x := by
  rw [readNumber_eq_some_iff hf, hcs.trim_eq]
  constructor
  · rintro ⟨plain, hu, hx⟩
    exact ⟨fun c hc => hu.not_sign hf c (List.mem_of_mem_head? hc), plain, .bare hu, hx⟩
  · rintro ⟨hsign, plain, hs, hx⟩
    cases hs with
    | bare hu => exact ⟨plain, hu, hx⟩
    | plus => exact absurd rfl (hsign _ rfl).1
    | minus => exact absurd rfl (hsign _ rfl).2

private theorem isSome_readAmount_iff (f : LocaleFormat) (value : List Char) :
    (f.readAmount value).isSome = true ↔
      ∃ x, (∀ c ∈ (f.withoutSymbol (takeSign (Text.trim value)).2).head?, c ≠ '+' ∧ c ≠ '-') ∧
        f.readNumber (f.withoutSymbol (takeSign (Text.trim value)).2) = some x := by
  obtain ⟨negative, hread⟩ : ∃ negative : Bool, f.readAmount value =
      (match f.withoutSymbol (takeSign (Text.trim value)).2 with
        | '-' :: _ | '+' :: _ => none
        | text => (f.readNumber text).map fun x : Binary64 => if negative then x.neg else x) :=
    ⟨_, rfl⟩
  rw [hread]
  generalize f.withoutSymbol (takeSign (Text.trim value)).2 = cs
  split
  · simp
  · simp
  · next hminus hplus =>
    rw [Option.isSome_map, Option.isSome_iff_exists, exists_and_left, iff_and_self]
    rintro - c hc
    obtain ⟨r, rfl⟩ := List.head?_eq_some_iff.mp hc
    exact ⟨fun h => hplus r (by rw [h]), fun h => hminus r (by rw [h])⟩

private theorem isSome_readAmount_iff_spells (hf : f.Marked) (hp : f.Priced) :
    (f.readAmount value).isSome = true ↔ ∃ plain x, f.SpellsAmount (Text.trim value) plain ∧
      Binary64.ofText? plain = some x ∧ x.isFinite = true := by
  have hcs := trimmed_withoutSymbol (f := f) (trimmed_takeSign (Text.trimmed_trim value))
  rw [isSome_readAmount_iff, exists_comm]
  refine exists_congr fun x => ?_
  simp only [spellsAmount_iff hf hp, amount_iff hf hp]
  exact (unsigned_iff_readNumber hf hcs).symm

end Reading

section Letters

variable {f : LocaleFormat} {cs plain : List Char}

def letters (f : LocaleFormat) (cs : List Char) : List Char := cs.filter fun c => !f.isPlain c

private theorem letters_append (f : LocaleFormat) (cs ds : List Char) :
    f.letters (cs ++ ds) = f.letters cs ++ f.letters ds := List.filter_append ..

private theorem letters_eq_nil (h : ∀ c ∈ cs, f.isPlain c = true) : f.letters cs = [] := by
  rw [letters, List.filter_eq_nil_iff]
  intro c hc
  simp [h c hc]

private theorem letters_eq_self (h : ∀ c ∈ cs, f.isPlain c = false) : f.letters cs = cs := by
  rw [letters, List.filter_eq_self]
  intro c hc
  rw [h c hc]
  rfl

private theorem Amount.letters (hp : f.Priced) (h : f.Amount cs plain) :
    f.letters cs = [] ∨ ∃ s ∈ f.symbols, f.letters cs = s.toList := by
  cases h with
  | bare h => exact .inl (letters_eq_nil h.isPlain)
  | @before s _ _ _ hs hgap h =>
    refine .inr ⟨s, hs, ?_⟩
    rw [letters_append, letters_append, letters_eq_self (hp.not_isPlain s hs),
      letters_eq_nil (isPlain_of_blanks hgap), letters_eq_nil h.isPlain, List.append_nil,
      List.append_nil]
  | @behind s _ _ _ hs hgap h =>
    refine .inr ⟨s, hs, ?_⟩
    rw [letters_append, letters_append, letters_eq_self (hp.not_isPlain s hs),
      letters_eq_nil (isPlain_of_blanks hgap), letters_eq_nil h.isPlain, List.nil_append,
      List.nil_append]

private theorem SpellsAmount.letters (hp : f.Priced) (h : f.SpellsAmount cs plain) :
    f.letters cs = [] ∨ ∃ s ∈ f.symbols, f.letters cs = s.toList := by
  have hsigned {c : Char} {gap cs : List Char} (hc : f.isPlain c = true) (hgap : Text.Blanks gap) :
      f.letters (c :: (gap ++ cs)) = f.letters cs := by
    rw [← List.cons_append, letters_append,
      letters_eq_nil (List.forall_mem_cons.mpr ⟨hc, isPlain_of_blanks hgap⟩), List.nil_append]
  cases h with
  | bare h => exact h.letters hp
  | plus hgap h =>
    rw [hsigned (isPlain_iff.mpr (by simp)) hgap]
    exact h.letters hp
  | minus hgap h =>
    rw [hsigned (isPlain_iff.mpr (by simp)) hgap]
    exact h.letters hp

private theorem SpellsAmount.not_sublist (hp : f.Priced) (h : f.SpellsAmount cs plain)
    {word : List Char} (hne : word ≠ []) (hword : ∀ c ∈ word, f.isPlain c = false)
    (hsymbols : ∀ s ∈ f.symbols, ¬ word.Sublist s.toList) : ¬ word.Sublist cs := by
  intro hsub
  have hletters : word.Sublist (f.letters cs) := by
    rw [← letters_eq_self hword]
    exact hsub.filter _
  rcases h.letters hp with hnil | ⟨s, hs, heq⟩
  · rw [hnil, List.sublist_nil] at hletters
    exact hne hletters
  · rw [heq] at hletters
    exact hsymbols s hs hletters

end Letters

/-- A text without a sign behind its first character, with a digit, and with neither two currency
symbols of the locale nor one that only other locales have. -/
structure Orderly (f : LocaleFormat) (text : List Char) : Prop where
  not_sign : ∀ c ∈ text.tail, c ≠ '+' ∧ c ≠ '-'
  digit : ∃ c ∈ text, c.isDigit = true
  one_symbol : ∀ s ∈ f.symbols, ∀ s' ∈ f.symbols, ∀ a b c,
    text ≠ a ++ s.toList ++ b ++ s'.toList ++ c
  own_symbol : ∀ g ∈ all, ∀ s ∈ g.symbols, s ∉ f.symbols → ¬ s.toList <:+: text

private theorem SpellsAmount.orderly {f : LocaleFormat} {cs plain : List Char} (hf : f.Marked)
    (hp : f.Priced) (h : f.SpellsAmount cs plain) : f.Orderly cs where
  not_sign := by
    cases h with
    | bare h => exact fun c hc => h.not_sign hf hp c (List.mem_of_mem_tail hc)
    | plus hgap h | minus hgap h =>
      exact List.forall_mem_append.mpr ⟨not_sign_of_blanks hgap, h.not_sign hf hp⟩
  digit := by
    have hamount {cs : List Char} (h : f.Amount cs plain) : ∃ c ∈ cs, c.isDigit = true := by
      cases h with
      | bare h | before _ _ h | behind _ _ h =>
        obtain ⟨d, hlast, hd⟩ := h.last
        exact ⟨d, by simp [List.mem_of_getLast? hlast], hd⟩
    cases h with
    | bare h => exact hamount h
    | plus _ h | minus _ h =>
      obtain ⟨c, hc, hdigit⟩ := hamount h
      exact ⟨c, by simp [hc], hdigit⟩
  one_symbol := by
    rintro s hs s' hs' a b c rfl
    refine @SpellsAmount.not_sublist _ _ _ hp h (s.toList ++ s'.toList) (by simp [hp.ne_nil s hs])
      (List.forall_mem_append.mpr ⟨hp.not_isPlain s hs, hp.not_isPlain s' hs'⟩)
      (fun w hw => hp.once w hw s hs s' hs') ?_
    have hfirst : s.toList.Sublist (a ++ s.toList ++ b) := by simp
    exact (hfirst.append (List.Sublist.refl _)).trans (List.sublist_append_left _ c)
  own_symbol := by
    intro g hg s hs hother hinfix
    obtain ⟨hne, hplain, hsymbols⟩ := hp.others g hg s hs hother
    exact h.not_sublist hp hne hplain hsymbols hinfix.sublist

private theorem check?_currency (f : LocaleFormat) : ∃ check, f.check? .currency = some check ∧
    ∀ value, check.judge value = if (f.readAmount value.toList).isSome then none else some 0 := by
  refine ⟨_, rfl, fun value => ?_⟩
  dsimp only [simpleCheck]

/-- The check of amounts in a built-in locale passes the texts that, blanks around them aside, write
a finite number of the locale without a sign, with at most one of its currency symbols on either
side and at most one sign in front of both. It has the fault 0 for all other texts. -/
theorem check?_currency_iff_spells :
    (all.map fun f => (f.id, f.symbols)) =
      [("en-US", ["US$", "$", "USD"]), ("en-GB", ["£", "GBP"]), ("de-DE", ["€", "EUR"]),
        ("fr-FR", ["€", "EUR"])] ∧
    ∀ f ∈ all, ∀ code, ∃ check, LocaleSource.standard.check? .currency f.id code = some check ∧
      ∀ value : String,
        (check.judge value = none ↔ ∃ plain x, f.SpellsAmount (Text.trim value.toList) plain ∧
          Binary64.ofText? plain = some x ∧ x.isFinite = true) ∧
        (check.judge value ≠ none → check.judge value = some 0) ∧
        (check.judge value = none → f.Orderly (Text.trim value.toList)) := by
  refine ⟨rfl, fun f hmem code => ?_⟩
  have hf := marked_of_mem_all hmem
  have hp := priced_of_mem_all hmem
  obtain ⟨check, hcheck, hjudge⟩ := f.check?_currency
  refine ⟨check, (standard_check?_eq (find?_id hmem) _ code).trans hcheck, fun value => ?_⟩
  have hspells : check.judge value = none ↔ ∃ plain x, f.SpellsAmount (Text.trim value.toList) plain ∧
      Binary64.ofText? plain = some x ∧ x.isFinite = true := by
    rw [hjudge, ← isSome_readAmount_iff_spells hf hp]
    cases (f.readAmount value.toList).isSome <;> simp
  refine ⟨hspells, fun hne => ?_, fun hnone => ?_⟩
  · rw [hjudge] at hne ⊢
    split at hne
    · exact absurd rfl hne
    · next hread => rw [if_neg hread]
  · obtain ⟨plain, x, hs, -⟩ := hspells.mp hnone
    exact hs.orderly hf hp

/-- A text may end with two of the symbols at once, and blanks may stand on both sides of the number;
the sign stands in front of the symbol. -/
theorem check?_currency_iff_spells_us_dollar : american ∈ all ∧
    ∃ check, LocaleSource.standard.check? .currency american.id 1 = some check ∧
      check.judge "	- 1,234.5 US$" = none ∧ check.judge "US$ -1,234.5" = some 0 := by
  have hmem : american ∈ all := by simp [all]
  obtain ⟨-, hall⟩ := check?_currency_iff_spells
  obtain ⟨check, hcheck, hjudge⟩ := hall american hmem 1
  have hwhole : american.Whole "1,234".toList "1234".toList :=
    @Whole.grouped _ ['1'] _ _ (by decide) (by decide) (List.all_eq_true.mp rfl) (by simp)
      (@Blocks.cons _ _ ['2', '3', '4'] _ _ (by decide) rfl (List.all_eq_true.mp rfl) .nil)
  have hamount : american.Amount "1,234.5 US$".toList "1234.5".toList :=
    @Amount.behind _ "US$" [' '] "1,234.5".toList _ (by decide) (by simp [Text.Blanks, Text.isBlank])
      (.both hwhole ⟨by simp, List.all_eq_true.mp rfl⟩)
  have hspells : american.SpellsAmount (Text.trim "	- 1,234.5 US$".toList) "1234.5".toList :=
    @SpellsAmount.minus _ [' '] _ _ (by simp [Text.Blanks, Text.isBlank]) hamount
  obtain ⟨hpasses, -, -⟩ := hjudge "	- 1,234.5 US$"
  obtain ⟨-, hfault, horderly⟩ := hjudge "US$ -1,234.5"
  refine ⟨hmem, check, hcheck,
    hpasses.mpr ⟨_, ⟨0x40934a0000000000⟩, hspells, by decide +kernel, by decide +kernel⟩,
    hfault fun hnone => ?_⟩
  exact ((horderly hnone).not_sign '-' (by decide)).2 rfl

end LocaleFormat
end TableAudit
