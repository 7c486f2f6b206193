import TableAudit.Locale.Standard
import TableAudit.Proofs.Binary64.Numeral
import TableAudit.Proofs.Text.Parts

/-! The grammar of numbers in the built-in locales. A text is read as the number of its plain
numeral. -/
namespace TableAudit

namespace Text

theorem isDigit_iff {c : Char} : c.isDigit = true ↔ 48 ≤ c.toNat ∧ c.toNat ≤ 57 := by
  simp only [Char.isDigit, Bool.and_eq_true, decide_eq_true_eq]
  exact and_congr UInt32.le_iff_toNat_le UInt32.le_iff_toNat_le

theorem not_isBlank_of_isDigit {c : Char} (h : c.isDigit = true) : isBlank c = false := by
  have hrange := isDigit_iff.mp h
  rw [← Bool.not_eq_true]
  simp only [isBlank, Bool.or_eq_true, Bool.and_eq_true, decide_eq_true_eq]
  omega

theorem trim_eq_self {cs : List Char} (h : ∀ c ∈ cs, isBlank c = false) : trim cs = cs := by
  have hstart : trimStart cs = cs := trimStart_eq_self fun c hc => h c (List.mem_of_mem_head? hc)
  rw [trim, hstart]
  exact trimEnd_eq_self fun c hc => h c (List.mem_of_mem_getLast? hc)

end Text

namespace LocaleFormat

inductive Blocks (f : LocaleFormat) : List Char → List Char → Prop
  | nil : Blocks f [] []
  | cons {m block cs ds} : m ∈ f.groups → block.length = 3 → (∀ c ∈ block, c.isDigit = true) →
      Blocks f cs ds → Blocks f (m :: (block ++ cs)) (block ++ ds)

/-- A whole part and its digits: a run of digits, or up to three digits with blocks behind them. -/
inductive Whole (f : LocaleFormat) : List Char → List Char → Prop
  | run {ds} : ds ≠ [] → (∀ c ∈ ds, c.isDigit = true) → Whole f ds ds
  | grouped {lead cs ds} : 1 ≤ lead.length → lead.length ≤ 3 → (∀ c ∈ lead, c.isDigit = true) →
      cs ≠ [] → Blocks f cs ds → Whole f (lead ++ cs) (lead ++ ds)

def IsFraction (fs : List Char) : Prop := fs ≠ [] ∧ ∀ c ∈ fs, c.isDigit = true

/-- A number without a sign and its plain numeral; one of the two parts may be missing. -/
inductive Unsigned (f : LocaleFormat) : List Char → List Char → Prop
  | whole {w ds} : Whole f w ds → Unsigned f w ds
  | both {w ds fs} : Whole f w ds → IsFraction fs →
      Unsigned f (w ++ f.decimal :: fs) (ds ++ '.' :: fs)
  | fraction {fs} : IsFraction fs → Unsigned f (f.decimal :: fs) ('0' :: '.' :: fs)

/-- A number and its plain numeral, which keeps only the minus sign. -/
inductive Spells (f : LocaleFormat) : List Char → List Char → Prop
  | bare {cs plain} : Unsigned f cs plain → Spells f cs plain
  | plus {cs plain} : Unsigned f cs plain → Spells f ('+' :: cs) plain
  | minus {cs plain} : Unsigned f cs plain → Spells f ('-' :: cs) ('-' :: plain)

/-- What tells the marks of a locale from digits, signs and blanks, and from each other. -/
structure Marked (f : LocaleFormat) : Prop where
  decimal_not_isDigit : f.decimal.isDigit = false
  decimal_not_isBlank : Text.isBlank f.decimal = false
  decimal_ne_minus : f.decimal ≠ '-'
  decimal_ne_plus : f.decimal ≠ '+'
  decimal_not_mem : f.decimal ∉ f.groups
  not_isDigit : ∀ m ∈ f.groups, m.isDigit = false
  minus_not_mem : '-' ∉ f.groups
  plus_not_mem : '+' ∉ f.groups

theorem marked_of_mem_all {f : LocaleFormat} (h : f ∈ all) : f.Marked := by
  have hgroups : ∀ m ∈ f.groups, m.isDigit = false := by
    have hall : (all.all fun f => f.groups.all fun m => !m.isDigit) = true := rfl
    simpa using List.all_eq_true.mp (List.all_eq_true.mp hall f h)
  simp only [all, List.mem_cons, List.not_mem_nil, or_false] at h
  rcases h with rfl | rfl | rfl | rfl
  all_goals
    exact ⟨by decide, by decide, by decide, by decide, by decide, hgroups, by decide, by decide⟩

section Whole

variable {f : LocaleFormat} {cs w ds lead : List Char}

private theorem Marked.not_mem_of_isDigit (h : f.Marked) {c : Char} (hc : c.isDigit = true) :
    c ∉ f.groups := by
  intro hmem
  have := h.not_isDigit c hmem
  rw [hc] at this
  cases this

private theorem wholeDigits?_of_parts {first : List Char} {others : List (List Char)}
    (h : Text.parts f.groups.contains cs = first :: others) :
    f.wholeDigits? cs = some ds ↔
      ((∀ c ∈ first, c.isDigit = true) ∧ ∀ p ∈ others, ∀ c ∈ p, c.isDigit = true) ∧
      (others ≠ [] → (1 ≤ first.length ∧ first.length ≤ 3) ∧ ∀ p ∈ others, p.length = 3) ∧
      first ++ others.flatten = ds := by
  have hdigits : (!(first :: others).all (·.all Char.isDigit)) = true ↔
      ¬ ((∀ c ∈ first, c.isDigit = true) ∧ ∀ p ∈ others, ∀ c ∈ p, c.isDigit = true) := by
    rw [← Bool.not_eq_false, not_iff_not]
    simp
  have hgroups : (!others.isEmpty && !(decide (1 ≤ first.length) && decide (first.length ≤ 3) &&
        others.all (·.length = 3))) = true ↔
      ¬ (others ≠ [] → (1 ≤ first.length ∧ first.length ≤ 3) ∧ ∀ p ∈ others, p.length = 3) := by
    rw [← Bool.not_eq_false, not_iff_not, Bool.and_eq_false_imp]
    simp
  rw [wholeDigits?]
  simp only [h, hdigits, hgroups]
  split_ifs with hd hg
  · rw [Option.some.injEq, List.flatten_cons]
    exact ⟨fun he => ⟨hd, hg, he⟩, fun hall => hall.2.2⟩
  · simp only [false_iff]
    exact fun hall => hg hall.2.1
  · simp only [false_iff]
    exact fun hall => hd hall.1

private theorem Blocks.parts_append (hf : f.Marked) (h : f.Blocks cs ds) {p : List Char}
    (hp : ∀ c ∈ p, c.isDigit = true) :
    ∃ others, Text.parts f.groups.contains (p ++ cs) = p :: others ∧ others.flatten = ds ∧
      (∀ q ∈ others, q.length = 3 ∧ ∀ c ∈ q, c.isDigit = true) := by
  have unmarked {q : List Char} (hq : ∀ c ∈ q, c.isDigit = true) :
      ∀ c ∈ q, f.groups.contains c = false := by
    intro c hc
    simpa using hf.not_mem_of_isDigit (hq c hc)
  induction h generalizing p with
  | nil =>
    refine ⟨[], ?_, rfl, by simp⟩
    rw [List.append_nil]
    exact Text.parts_of_forall (unmarked hp)
  | @cons m block cs ds hm hlen hblock _ ih =>
    obtain ⟨others, hparts, rfl, hothers⟩ := ih hblock
    refine ⟨block :: others, ?_, rfl, List.forall_mem_cons.mpr ⟨⟨hlen, hblock⟩, hothers⟩⟩
    rw [Text.parts_append (unmarked hp) (by simpa using hm), hparts]

private theorem blocks_of_parts {others : List (List Char)} {m : Char} {rest : List Char}
    (hm : m ∈ f.groups) (h : Text.parts f.groups.contains rest = others)
    (hothers : ∀ q ∈ others, q.length = 3 ∧ ∀ c ∈ q, c.isDigit = true) :
    f.Blocks (m :: rest) others.flatten := by
  induction others generalizing m rest with
  | nil => exact absurd h (Text.parts_ne_nil _ _)
  | cons q others ih =>
    rw [List.forall_mem_cons] at hothers
    obtain ⟨⟨hlen, hdigits⟩, hothers⟩ := hothers
    rcases Text.parts_cases f.groups.contains rest with ⟨-, hparts⟩ | ⟨p, m', rest', -, hm', rfl, hparts⟩
    · rw [hparts] at h
      cases h
      have hblock := Blocks.cons hm hlen hdigits .nil
      rw [List.append_nil] at hblock
      rwa [List.flatten_singleton]
    · rw [hparts] at h
      cases h
      exact .cons hm hlen hdigits (ih (by simpa using hm') rfl hothers)

private theorem Whole.wholeDigits?_eq (hf : f.Marked) (h : f.Whole w ds) :
    f.wholeDigits? w = some ds := by
  cases h with
  | run hne hds =>
    have hparts : Text.parts f.groups.contains w = [w] := by
      apply Text.parts_of_forall
      intro c hc
      simpa using hf.not_mem_of_isDigit (hds c hc)
    rw [wholeDigits?_of_parts hparts]
    simpa using hds
  | grouped hpos hle hlead _ hblocks =>
    obtain ⟨others, hparts, rfl, hothers⟩ := hblocks.parts_append hf hlead
    rw [wholeDigits?_of_parts hparts]
    exact ⟨⟨hlead, fun q hq => (hothers q hq).2⟩, fun _ => ⟨⟨hpos, hle⟩, fun q hq => (hothers q hq).1⟩,
      rfl⟩

private theorem whole_of_wholeDigits? (h : f.wholeDigits? w = some ds) :
    w = [] ∧ ds = [] ∨ f.Whole w ds := by
  rcases Text.parts_cases f.groups.contains w with ⟨-, hparts⟩ | ⟨p, m, rest, -, hm, rfl, hparts⟩
  · rw [wholeDigits?_of_parts hparts] at h
    obtain ⟨⟨hdigits, -⟩, -, rfl⟩ := h
    rw [List.flatten_nil, List.append_nil]
    rcases List.eq_nil_or_concat w with rfl | ⟨cs, c, rfl⟩
    · exact .inl ⟨rfl, rfl⟩
    · exact .inr (.run (by simp) hdigits)
  · rw [wholeDigits?_of_parts hparts] at h
    obtain ⟨⟨hlead, hdigits⟩, hgroups, rfl⟩ := h
    obtain ⟨⟨hpos, hle⟩, hlen⟩ := hgroups (Text.parts_ne_nil _ _)
    have hblocks := blocks_of_parts (by simpa using hm) rfl fun q hq => ⟨hlen q hq, hdigits q hq⟩
    exact .inr (.grouped hpos hle hlead (by simp) hblocks)

end Whole

section Plain

variable {f : LocaleFormat} {cs w ds plain : List Char}

def plain? (f : LocaleFormat) (body : List Char) : Option (List Char) :=
  let (whole, fraction) := Text.cut f.decimal body
  if fraction.any fun ds => ds.isEmpty || !ds.all Char.isDigit then none
  else
    match f.wholeDigits? whole with
    | none => none
    | some digits =>
      if digits.isEmpty && fraction.isNone then none
      else some ((if digits.isEmpty then ['0'] else digits) ++ Numeral.tail fraction)

theorem readNumber_eq (f : LocaleFormat) (value : List Char) :
    f.readNumber value = (f.plain? (Numeral.takeSign (Text.trim value)).2).bind fun plain =>
      Binary64.finiteOfText?
        ((if (Numeral.takeSign (Text.trim value)).1 then ['-'] else []) ++ plain) := by
  rw [readNumber, plain?]
  generalize Numeral.takeSign (Text.trim value) = signed
  dsimp only
  generalize Text.cut f.decimal signed.2 = pieces
  split
  · rfl
  cases f.wholeDigits? pieces.1 with
  | none => rfl
  | some digits =>
    dsimp only
    split
    · rfl
    · rw [Option.bind_some, ← List.append_assoc]
      cases pieces.2 <;> rfl

private theorem Blocks.isDigit_or_mem (h : f.Blocks cs ds) :
    (∀ c ∈ cs, c.isDigit = true ∨ c ∈ f.groups) ∧ ∀ c ∈ ds, c.isDigit = true := by
  induction h with
  | nil => simp
  | cons hm _ hblock _ ih =>
    obtain ⟨hcs, hds⟩ := ih
    constructor
    · intro c hc
      rcases List.mem_cons.mp hc with rfl | hc
      · exact .inr hm
      · exact (List.mem_append.mp hc).elim (fun hc => .inl (hblock c hc)) (hcs c)
    · intro c hc
      exact (List.mem_append.mp hc).elim (hblock c) (hds c)

theorem Whole.isDigit_or_mem (h : f.Whole w ds) :
    (∀ c ∈ w, c.isDigit = true ∨ c ∈ f.groups) ∧ ds ≠ [] ∧ ∀ c ∈ ds, c.isDigit = true := by
  cases h with
  | run hne hds => exact ⟨fun c hc => .inl (hds c hc), hne, hds⟩
  | grouped hpos _ hlead _ hblocks =>
    obtain ⟨hcs, hds⟩ := hblocks.isDigit_or_mem
    refine ⟨fun c hc => ?_, ?_, fun c hc => ?_⟩
    · exact (List.mem_append.mp hc).elim (fun hc => .inl (hlead c hc)) (hcs c)
    · rintro hnil
      rw [(List.append_eq_nil_iff.mp hnil).1] at hpos
      exact absurd hpos (by decide)
    · exact (List.mem_append.mp hc).elim (hlead c) (hds c)

private theorem Whole.decimal_not_mem (hf : f.Marked) (h : f.Whole w ds) : f.decimal ∉ w := by
  intro hmem
  rcases h.isDigit_or_mem.1 _ hmem with hdigit | hgroup
  · rw [hf.decimal_not_isDigit] at hdigit
    cases hdigit
  · exact hf.decimal_not_mem hgroup

private theorem IsFraction.not_any {fs : List Char} (h : IsFraction fs) :
    (some fs).any (fun ds => ds.isEmpty || !ds.all Char.isDigit) = false := by
  obtain ⟨hne, hfs⟩ := h
  simpa [hne] using hfs

private theorem Unsigned.plain?_eq (hf : f.Marked) (h : f.Unsigned cs plain) :
    f.plain? cs = some plain := by
  cases h with
  | whole hw =>
    have hne := hw.isDigit_or_mem.2.1
    rw [plain?, Text.cut_of_not_mem (hw.decimal_not_mem hf)]
    simp [hw.wholeDigits?_eq hf, hne, Numeral.tail]
  | both hw hfs =>
    have hne := hw.isDigit_or_mem.2.1
    rw [plain?, Text.cut_append (hw.decimal_not_mem hf)]
    simp [hw.wholeDigits?_eq hf, hne, Numeral.tail, hfs.not_any]
  | fraction hfs =>
    have hcut (after : List Char) : Text.cut f.decimal (f.decimal :: after) = ([], some after) :=
      Text.cut_append List.not_mem_nil after
    rw [plain?, hcut]
    simp [wholeDigits?, Text.parts, Numeral.tail, hfs.not_any]

private theorem unsigned_of_plain? (h : f.plain? cs = some plain) : f.Unsigned cs plain := by
  rcases Text.cut_cases f.decimal cs with ⟨-, hcut⟩ | ⟨before, after, -, rfl, hcut⟩
  · rw [plain?, hcut] at h
    dsimp only at h
    cases hw : f.wholeDigits? cs with
    | none => simp [hw] at h
    | some ds =>
      rcases whole_of_wholeDigits? hw with ⟨rfl, rfl⟩ | hwhole
      · simp [hw] at h
      · obtain rfl : ds = plain := by simpa [hw, hwhole.isDigit_or_mem.2.1, Numeral.tail] using h
        exact .whole hwhole
  · rw [plain?, hcut] at h
    dsimp only at h
    split_ifs at h with hfraction
    have hfs : IsFraction after := by
      simpa [IsFraction] using hfraction
    cases hw : f.wholeDigits? before with
    | none => simp [hw] at h
    | some ds =>
      rcases whole_of_wholeDigits? hw with ⟨rfl, rfl⟩ | hwhole
      · obtain rfl : '0' :: '.' :: after = plain := by simpa [hw, Numeral.tail] using h
        exact .fraction hfs
      · obtain rfl : ds ++ '.' :: after = plain := by
          simpa [hw, hwhole.isDigit_or_mem.2.1, Numeral.tail] using h
        exact .both hwhole hfs

theorem plain?_eq_some_iff (hf : f.Marked) : f.plain? cs = some plain ↔ f.Unsigned cs plain :=
  ⟨unsigned_of_plain?, Unsigned.plain?_eq hf⟩

end Plain

section Spells

variable {f : LocaleFormat} {cs plain : List Char}

private theorem Unsigned.plain_eq (h : f.Unsigned cs plain) :
    ∃ ds fraction, ds ≠ [] ∧ (∀ c ∈ ds, c.isDigit = true) ∧
      (∀ fs ∈ fraction, ∀ c ∈ fs, c.isDigit = true) ∧ plain = ds ++ Numeral.tail fraction := by
  cases h with
  | whole hw =>
    obtain ⟨-, hne, hds⟩ := hw.isDigit_or_mem
    exact ⟨plain, none, hne, hds, by simp, by simp [Numeral.tail]⟩
  | both hw hfs =>
    obtain ⟨-, hne, hds⟩ := hw.isDigit_or_mem
    exact ⟨_, some _, hne, hds, fun fs hmem => by cases hmem; exact hfs.2, rfl⟩
  | fraction hfs =>
    exact ⟨['0'], some _, by simp, List.all_eq_true.mp rfl, fun fs hmem => by cases hmem; exact hfs.2, rfl⟩

private theorem Unsigned.ofText? (negative : Bool) (h : f.Unsigned cs plain) :
    ∃ x, Binary64.ofText? ((if negative then ['-'] else []) ++ plain) = some x := by
  obtain ⟨ds, fraction, hne, hds, hfs, rfl⟩ := h.plain_eq
  rw [← List.append_assoc]
  exact ⟨_, Binary64.ofText?_eq negative hne hds hfs⟩

private theorem Spells.ofText? (h : f.Spells cs plain) : ∃ x, Binary64.ofText? plain = some x := by
  cases h with
  | bare hu => exact hu.ofText? false
  | plus hu => exact hu.ofText? false
  | minus hu => exact hu.ofText? true

private theorem Unsigned.takeSign_eq (hf : f.Marked) (h : f.Unsigned cs plain) :
    Numeral.takeSign cs = (false, cs) := by
  have hwhole {w ds : List Char} (hw : f.Whole w ds) (r : List Char) :
      Numeral.takeSign (w ++ r) = (false, w ++ r) := by
    cases hw with
    | run hne hds =>
      obtain ⟨d, r', rfl⟩ := List.exists_cons_of_ne_nil hne
      exact Numeral.takeSign_of_isDigit (hds d List.mem_cons_self) _
    | grouped hpos _ hlead =>
      obtain ⟨d, r', rfl⟩ := List.exists_cons_of_ne_nil (List.length_pos_iff.mp hpos)
      exact Numeral.takeSign_of_isDigit (hlead d List.mem_cons_self) _
  cases h with
  | whole hw =>
    have := hwhole hw []
    rwa [List.append_nil] at this
  | both hw => exact hwhole hw _
  | fraction =>
    rw [Numeral.takeSign.eq_def]
    split
    · next heq => exact absurd (List.cons.inj heq).1 hf.decimal_ne_minus
    · next heq => exact absurd (List.cons.inj heq).1 hf.decimal_ne_plus
    · rfl

private theorem spells_iff (hf : f.Marked) : f.Spells cs plain ↔
    ∃ p, f.Unsigned (Numeral.takeSign cs).2 p ∧
      plain = (if (Numeral.takeSign cs).1 then ['-'] else []) ++ p := by
  constructor
  · intro h
    cases h with
    | bare hu =>
      rw [hu.takeSign_eq hf]
      exact ⟨plain, hu, rfl⟩
    | plus hu => exact ⟨_, hu, rfl⟩
    | minus hu => exact ⟨_, hu, rfl⟩
  · rintro ⟨p, hu, rfl⟩
    rw [Numeral.takeSign.eq_def] at hu ⊢
    split at hu
    · exact .minus hu
    · exact .plus hu
    · exact .bare hu

theorem readNumber_eq_some_iff (hf : f.Marked) {value : List Char} {x : Binary64} :
    f.readNumber value = some x ↔ ∃ plain, f.Spells (Text.trim value) plain ∧
      Binary64.ofText? plain = some x ∧ x.isFinite = true := by
  rw [readNumber_eq, Option.bind_eq_some_iff]
  simp only [plain?_eq_some_iff hf, spells_iff hf, Binary64.finiteOfText?_eq_some_iff]
  constructor
  · rintro ⟨p, hu, hx⟩
    exact ⟨_, ⟨p, hu, rfl⟩, hx⟩
  · rintro ⟨_, ⟨p, hu, rfl⟩, hx⟩
    exact ⟨p, hu, hx⟩

theorem isFinite_of_readNumber (hf : f.Marked) {value : List Char} {x : Binary64}
    (h : f.readNumber value = some x) : x.isFinite = true := by
  obtain ⟨plain, -, -, hx⟩ := (readNumber_eq_some_iff hf).mp h
  exact hx

end Spells

section Ungrouped

variable {f : LocaleFormat} {cs w ds plain : List Char}

def ungrouped (f : LocaleFormat) (cs : List Char) : List Char :=
  cs.filter fun c => !f.groups.contains c

private theorem ungrouped_append (f : LocaleFormat) (cs ds : List Char) :
    f.ungrouped (cs ++ ds) = f.ungrouped cs ++ f.ungrouped ds := List.filter_append ..

private theorem ungrouped_cons_of_not_mem {c : Char} (h : c ∉ f.groups) (cs : List Char) :
    f.ungrouped (c :: cs) = c :: f.ungrouped cs := by
  simp [ungrouped, h]

private theorem ungrouped_of_isDigit (hf : f.Marked) (h : ∀ c ∈ ds, c.isDigit = true) :
    f.ungrouped ds = ds := by
  rw [ungrouped, List.filter_eq_self]
  intro c hc
  simpa using hf.not_mem_of_isDigit (h c hc)

private theorem Blocks.ungrouped (hf : f.Marked) (h : f.Blocks cs ds) : f.ungrouped cs = ds := by
  induction h with
  | nil => rfl
  | @cons m block cs ds hm _ hblock _ ih =>
    have hdrop : f.ungrouped (m :: (block ++ cs)) = f.ungrouped (block ++ cs) := by
      simp [LocaleFormat.ungrouped, hm]
    rw [hdrop, ungrouped_append, ungrouped_of_isDigit hf hblock, ih]

theorem Whole.ungrouped (hf : f.Marked) (h : f.Whole w ds) : f.ungrouped w = ds := by
  cases h with
  | run _ hds => exact ungrouped_of_isDigit hf hds
  | grouped _ _ hlead _ hblocks =>
    rw [ungrouped_append, ungrouped_of_isDigit hf hlead, hblocks.ungrouped hf]

private theorem Unsigned.ungrouped (hf : f.Marked) (h : f.Unsigned cs plain) :
    f.Unsigned (f.ungrouped cs) plain := by
  cases h with
  | whole hw =>
    obtain ⟨-, hne, hds⟩ := hw.isDigit_or_mem
    rw [hw.ungrouped hf]
    exact .whole (.run hne hds)
  | both hw hfs =>
    obtain ⟨-, hne, hds⟩ := hw.isDigit_or_mem
    rw [ungrouped_append, hw.ungrouped hf, ungrouped_cons_of_not_mem hf.decimal_not_mem,
      ungrouped_of_isDigit hf hfs.2]
    exact .both (.run hne hds) hfs
  | fraction hfs =>
    rw [ungrouped_cons_of_not_mem hf.decimal_not_mem, ungrouped_of_isDigit hf hfs.2]
    exact .fraction hfs

private theorem Spells.ungrouped (hf : f.Marked) (h : f.Spells cs plain) :
    f.Spells (f.ungrouped cs) plain := by
  cases h with
  | bare hu => exact .bare (hu.ungrouped hf)
  | plus hu =>
    rw [ungrouped_cons_of_not_mem hf.plus_not_mem]
    exact .plus (hu.ungrouped hf)
  | minus hu =>
    rw [ungrouped_cons_of_not_mem hf.minus_not_mem]
    exact .minus (hu.ungrouped hf)

theorem Unsigned.mem (h : f.Unsigned cs plain) {c : Char} (hc : c ∈ cs) :
    c.isDigit = true ∨ c = f.decimal ∨ c ∈ f.groups := by
  cases h with
  | whole hw => exact (hw.isDigit_or_mem.1 c hc).imp_right .inr
  | both hw hfs =>
    rcases List.mem_append.mp hc with hc | hc
    · exact (hw.isDigit_or_mem.1 c hc).imp_right .inr
    · exact (List.mem_cons.mp hc).elim (fun he => .inr (.inl he)) fun hc => .inl (hfs.2 c hc)
  | fraction hfs =>
    exact (List.mem_cons.mp hc).elim (fun he => .inr (.inl he)) fun hc => .inl (hfs.2 c hc)

private theorem Spells.not_isBlank (hf : f.Marked) (h : f.Spells cs plain) :
    ∀ c ∈ f.ungrouped cs, Text.isBlank c = false := by
  have hunsigned {cs plain : List Char} (hu : f.Unsigned cs plain) :
      ∀ c ∈ f.ungrouped cs, Text.isBlank c = false := by
    intro c hc
    obtain ⟨hmem, hgroup⟩ := List.mem_filter.mp hc
    rcases hu.mem hmem with hdigit | rfl | hgroup'
    · exact Text.not_isBlank_of_isDigit hdigit
    · exact hf.decimal_not_isBlank
    · simp [hgroup'] at hgroup
  cases h with
  | bare hu => exact hunsigned hu
  | plus hu =>
    rw [ungrouped_cons_of_not_mem hf.plus_not_mem]
    exact List.forall_mem_cons.mpr ⟨rfl, hunsigned hu⟩
  | minus hu =>
    rw [ungrouped_cons_of_not_mem hf.minus_not_mem]
    exact List.forall_mem_cons.mpr ⟨rfl, hunsigned hu⟩

end Ungrouped

/-- A check of numbers reads them as its locale does, and has no fault but that they cannot be read. -/
structure ReadsNumbers (f : LocaleFormat) (check : LocaleCheck) : Prop where
  readNumber_eq : ∀ value, check.readNumber value = f.readNumber value.toList
  judge_eq_none_iff : ∀ value, check.judge value = none ↔ ∃ x, check.readNumber value = some x

theorem check?_number (f : LocaleFormat) :
    ∃ check, f.check? .number = some check ∧ f.ReadsNumbers check := by
  refine ⟨_, rfl, fun _ => rfl, fun value => ?_⟩
  rw [← Option.isSome_iff_exists]
  show (if (f.readNumber value.toList).isSome then none else some 0) = none ↔
    (f.readNumber value.toList).isSome = true
  cases f.readNumber value.toList <;> simp

theorem mem_all_of_find? {name : String} {f : LocaleFormat} (h : find? name = some f) : f ∈ all := by
  simp only [find?] at h
  split at h
  · next g hg =>
    cases h
    exact List.mem_of_find?_eq_some hg
  · split at h
    · cases h
    · exact List.mem_of_find?_eq_some h

theorem find?_id {f : LocaleFormat} (h : f ∈ all) : find? f.id = some f := by
  simp only [all, List.mem_cons, List.not_mem_nil, or_false] at h
  rcases h with rfl | rfl | rfl | rfl
  all_goals rfl

/-- A built-in locale has its checks under all of its names, whatever code they are told. -/
theorem standard_check?_eq {name : String} {f : LocaleFormat} (h : find? name = some f)
    (type : CellType) (code : UInt8) : LocaleSource.standard.check? type name code = f.check? type := by
  show (find? name).bind _ = _
  rw [h]
  rfl

/-- The checks of numbers in the built-in locales. -/
theorem readsNumbers_of_standard {name : String} {code : UInt8} {check : LocaleCheck}
    (h : LocaleSource.standard.check? .number name code = some check) :
    ∃ f ∈ all, f.ReadsNumbers check := by
  obtain ⟨f, hf, hcheck⟩ := Option.bind_eq_some_iff.mp h
  obtain ⟨check', hcheck', hreads⟩ := f.check?_number
  cases hcheck.symm.trans hcheck'
  exact ⟨f, mem_all_of_find? hf, hreads⟩

/-- The check of numbers in a built-in locale reads a text exactly when the text, blanks around it
aside, is written by the rules of the locale and its plain numeral spells a finite number, and that
is what it reads. It finds a fault in all other texts. Marks between groups do not count. -/
theorem check?_number_iff_spells : ∀ f ∈ all, ∀ code,
    ∃ check, LocaleSource.standard.check? .number f.id code = some check ∧ ∀ value : String,
      (∀ x, check.readNumber value = some x ↔
        ∃ plain, f.Spells (Text.trim value.toList) plain ∧ Binary64.ofText? plain = some x ∧
          x.isFinite = true) ∧
      (∀ plain, f.Spells (Text.trim value.toList) plain → ∃ x, Binary64.ofText? plain = some x) ∧
      (check.judge value = none ↔ ∃ x, check.readNumber value = some x) ∧
      ∀ x, check.readNumber value = some x →
        check.readNumber (String.ofList (f.ungrouped (Text.trim value.toList))) = some x := by
  intro f hmem code
  have hf := marked_of_mem_all hmem
  obtain ⟨check, hcheck, hreads⟩ := f.check?_number
  have hstandard : LocaleSource.standard.check? .number f.id code = some check := by
    show (find? f.id).bind _ = _
    rw [find?_id hmem]
    exact hcheck
  refine ⟨check, hstandard, fun value => ⟨fun x => ?read, fun plain h => h.ofText?,
    hreads.judge_eq_none_iff value, fun x hx => ?marks⟩⟩
  case read =>
    rw [hreads.readNumber_eq]
    exact readNumber_eq_some_iff hf
  case marks =>
    rw [hreads.readNumber_eq, readNumber_eq_some_iff hf] at hx ⊢
    obtain ⟨plain, hspells, hvalue⟩ := hx
    refine ⟨plain, ?_, hvalue⟩
    rw [String.toList_ofList, Text.trim_eq_self (hspells.not_isBlank hf)]
    exact hspells.ungrouped hf

/-- Two kinds of blanks stand between the groups of a French number. -/
theorem check?_number_iff_spells_mixed_blanks : french ∈ all ∧
    ∃ check, LocaleSource.standard.check? .number french.id 1 = some check ∧
      check.readNumber "\t-1\u202f234 567,50" = some ⟨0xc132d68780000000⟩ ∧
      check.judge "\t-1\u202f234 567,50" = none := by
  have hmem : french ∈ all := by simp [all]
  obtain ⟨check, hcheck, hreads⟩ := check?_number_iff_spells french hmem 1
  obtain ⟨hread, -, hjudge, -⟩ := hreads "\t-1\u202f234 567,50"
  have hblocks : french.Blocks ['\u202f', '2', '3', '4', ' ', '5', '6', '7']
      ['2', '3', '4', '5', '6', '7'] :=
    @Blocks.cons _ _ ['2', '3', '4'] _ _ (by decide) rfl (List.all_eq_true.mp rfl)
      (@Blocks.cons _ _ ['5', '6', '7'] _ _ (by decide) rfl (List.all_eq_true.mp rfl) .nil)
  have hwhole : french.Whole ['1', '\u202f', '2', '3', '4', ' ', '5', '6', '7']
      ['1', '2', '3', '4', '5', '6', '7'] :=
    @Whole.grouped _ ['1'] _ _ (by decide) (by decide) (List.all_eq_true.mp rfl) (by simp) hblocks
  have hspells : french.Spells (Text.trim "\t-1\u202f234 567,50".toList) "-1234567.50".toList :=
    .minus (.both hwhole ⟨by simp, List.all_eq_true.mp rfl⟩)
  have hvalue : check.readNumber "\t-1\u202f234 567,50" = some ⟨0xc132d68780000000⟩ :=
    (hread _).mpr ⟨_, hspells, by decide +kernel, by decide +kernel⟩
  exact ⟨hmem, check, hcheck, hvalue, hjudge.mpr ⟨_, hvalue⟩⟩

end LocaleFormat
end TableAudit
