import TableAudit.Proofs.Binary64.Shortest
import TableAudit.Proofs.Json.Literals

/-! A whole number of 64 bits is read back exactly, and the numeral of a finite number is never out
of range. -/
namespace TableAudit.Json

def plainLiteral (negative : Bool) (ds : List Char) (point : Int) : NumberLiteral :=
  if point ≤ 0 then ⟨negative, ['0'], some (List.replicate (-point).toNat '0' ++ ds), none⟩
  else if ds.length ≤ point.toNat then
    ⟨negative, ds ++ List.replicate (point.toNat - ds.length) '0', some ['0'], none⟩
  else ⟨negative, ds.take point.toNat, some (ds.drop point.toNat), none⟩

def exponentLiteral (negative : Bool) (ds : List Char) (e : Int) : NumberLiteral :=
  ⟨negative, ds.take 1, if ds.length ≤ 1 then none else some (ds.drop 1),
    some (e < 0, Decimal.digits e.natAbs)⟩

def floatLiteral (x : Binary64) : NumberLiteral :=
  let d := x.shortest .toEven
  let ds := Decimal.digits d.coefficient
  let e := d.exponent + ds.length - 1
  if -5 ≤ e ∧ e ≤ 15 then plainLiteral x.isNegative ds (e + 1)
  else exponentLiteral x.isNegative ds e

def Number.literal? : Number → Option NumberLiteral
  | .whole n => some ⟨n < 0, Decimal.digits n.natAbs, none, none⟩
  | .float x => if x.isFinite then some (floatLiteral x) else none

/-- What is read where a number was written. -/
def Number.reread? (n : Number) : Option Number := n.literal?.bind ofLiteral?

def Number.token (n : Number) : Token :=
  match n.literal? with
  | some l => .number (ofLiteral? l)
  | none => .null

section WellFormed

variable {negative : Bool} {ds : List Char} {point e : Int}

private theorem isDigit_zeros (n : Nat) : ∀ c ∈ List.replicate n '0', c.isDigit = true := by
  intro c hc
  rw [(List.mem_replicate.mp hc).2]
  rfl

private theorem plainLiteral_wellFormed (hne : ds ≠ []) (hds : ∀ c ∈ ds, c.isDigit = true)
    (hzero : ds.head? = some '0' → ds.length = 1 ∧ point ≤ 1) :
    (plainLiteral negative ds point).WellFormed := by
  unfold plainLiteral
  split
  · refine ⟨by simp, by simp, by simp, fun fs hfs => ?_, by simp⟩
    cases hfs
    refine ⟨by simp [hne], fun c hc => ?_⟩
    exact (List.mem_append.mp hc).elim (isDigit_zeros _ c) (hds c)
  · split
    · next hpoint hlen =>
      refine ⟨by simp [hne], fun c hc => ?_, fun h => ?_, fun fs hfs => ?_, by simp⟩
      · exact (List.mem_append.mp hc).elim (hds c) (isDigit_zeros _ c)
      · obtain ⟨d, r, rfl⟩ := List.exists_cons_of_ne_nil hne
        obtain ⟨hone, hle⟩ := hzero h
        simp only [List.length_append, List.length_replicate, hone]
        omega
      · cases hfs
        simp
    · next hpoint hlen =>
      refine ⟨by simp [hne]; omega, fun c hc => hds c (List.mem_of_mem_take hc), fun h => ?_,
        fun fs hfs => ?_, by simp⟩
      · rw [List.head?_take, if_neg (by omega)] at h
        have := (hzero h).1
        omega
      · cases hfs
        exact ⟨by simpa using hlen, fun c hc => hds c (List.mem_of_mem_drop hc)⟩

private theorem exponentLiteral_wellFormed (hne : ds ≠ []) (hds : ∀ c ∈ ds, c.isDigit = true) :
    (exponentLiteral negative ds e).WellFormed := by
  have hlen : 0 < ds.length := List.length_pos_iff.mpr hne
  refine ⟨by simp [exponentLiteral, hne], fun c hc => hds c (List.mem_of_mem_take hc), fun _ => ?_,
    fun fs hfs => ?_, fun ex hex => ?_⟩
  · simp only [exponentLiteral, List.length_take]
    omega
  · simp only [exponentLiteral] at hfs
    split at hfs
    · cases hfs
    · next hlong =>
      cases hfs
      exact ⟨by simp only [ne_eq, List.drop_eq_nil_iff]; exact hlong,
        fun c hc => hds c (List.mem_of_mem_drop hc)⟩
  · cases hex
    exact ⟨Decimal.digits_ne_nil _, Decimal.isDigit_of_mem_digits _⟩

private theorem plainForm_eq (negative : Bool) :
    Binary64.plainForm ds point Number.layout.wholeMark =
    (plainLiteral negative ds point).body := by
  unfold Binary64.plainForm plainLiteral NumberLiteral.body NumberLiteral.fractionChars
    NumberLiteral.exponentChars Number.layout
  split
  · simp
  · split <;> simp

private theorem exponentForm_eq (negative : Bool) :
    Binary64.exponentForm ds e = (exponentLiteral negative ds e).body := by
  unfold Binary64.exponentForm exponentLiteral NumberLiteral.body NumberLiteral.fractionChars
    NumberLiteral.exponentChars
  rcases ds with _ | ⟨d, _ | ⟨d', r⟩⟩ <;> simp

private theorem negative_plainLiteral : (plainLiteral negative ds point).negative = negative := by
  unfold plainLiteral
  split_ifs <;> rfl

end WellFormed

private theorem head_digits_coefficient {d : Binary64.Digits} (h : d.Bounded)
    (hzero : (Decimal.digits d.coefficient).head? = some '0') :
    (Decimal.digits d.coefficient).length = 1 ∧
      d.exponent + (Decimal.digits d.coefficient).length - 1 + 1 ≤ 1 := by
  rcases Nat.eq_zero_or_pos d.coefficient with hc | hc
  · rw [hc, h.zero hc]
    decide +kernel
  · exact absurd hzero (Decimal.head?_digits hc)

private theorem floatLiteral_wellFormed {x : Binary64} (h : x.isFinite = true) :
    (floatLiteral x).WellFormed := by
  have hb := Binary64.shortest_bounded .toEven h
  have hne := Decimal.digits_ne_nil (x.shortest .toEven).coefficient
  have hds := Decimal.isDigit_of_mem_digits (x.shortest .toEven).coefficient
  unfold floatLiteral
  dsimp only
  split
  · exact plainLiteral_wellFormed hne hds (head_digits_coefficient hb)
  · exact exponentLiteral_wellFormed hne hds

private theorem spell_eq (x : Binary64) : x.spell Number.layout = (floatLiteral x).chars := by
  have hlayout : Number.layout.plain = some (-5, 15) := rfl
  have htie : Number.layout.tie = .toEven := rfl
  unfold Binary64.spell floatLiteral
  simp only [hlayout, htie, Bool.and_eq_true, decide_eq_true_eq]
  generalize Decimal.digits _ = ds
  generalize (x.shortest .toEven).exponent + ds.length - 1 = e
  by_cases hw : -5 ≤ e ∧ e ≤ 15
  · rw [if_pos hw, if_pos hw, plainForm_eq x.isNegative, NumberLiteral.chars, negative_plainLiteral]
  · rw [if_neg hw, if_neg hw, exponentForm_eq x.isNegative]
    rfl

namespace Number

private theorem literal_wellFormed {n : Number} {l : NumberLiteral} (h : n.literal? = some l) :
    l.WellFormed := by
  cases n with
  | whole n =>
    cases h
    refine ⟨Decimal.digits_ne_nil _, Decimal.isDigit_of_mem_digits _, fun hzero => ?_, by simp, by simp⟩
    rcases Nat.eq_zero_or_pos n.natAbs with hn | hn
    · dsimp only
      rw [hn]
      decide +kernel
    · exact absurd hzero (Decimal.head?_digits hn)
  | float x =>
    obtain ⟨hx, hl⟩ : x.isFinite = true ∧ floatLiteral x = l := by simpa [literal?] using h
    exact hl ▸ floatLiteral_wellFormed hx

private theorem spell_eq (n : Number) : n.spell =
    match n.literal? with
    | some l => l.chars
    | none => ['n', 'u', 'l', 'l'] := by
  cases n with
  | whole n =>
    unfold spell literal? NumberLiteral.chars NumberLiteral.body
    simp [NumberLiteral.fractionChars, NumberLiteral.exponentChars]
  | float x =>
    by_cases hx : x.isFinite = true
    · simpa [spell, literal?, hx] using Json.spell_eq x
    · simp [spell, literal?, hx]

theorem tokens_spell (n : Number) {rest : List Char} (hrest : Delimited rest) :
    tokens (n.spell ++ rest) = n.token :: tokens rest := by
  rw [spell_eq, token]
  cases hl : n.literal? with
  | some l => exact tokens_literal (literal_wellFormed hl) hrest
  | none => exact tokens_scalar rfl rfl rfl

end Number

private theorem gather_eq {c : Nat} {ds : List Char}
    (h : c * 10 ^ ds.length + Decimal.value ds < Nat.pow 2 64) :
    Number.gather c ds = (c * 10 ^ ds.length + Decimal.value ds, []) := by
  induction ds generalizing c with
  | nil => simp [Number.gather, Decimal.value]
  | cons d ds ih =>
    have htotal : c * 10 ^ (d :: ds).length + Decimal.value (d :: ds) =
        (c * 10 + Decimal.digitValue d) * 10 ^ ds.length + Decimal.value ds := by
      rw [← List.singleton_append, Decimal.value_append, List.length_append, List.length_singleton]
      simp only [Decimal.value, List.foldl_cons, List.foldl_nil]
      ring
    rw [htotal] at h ⊢
    have hnext : c * 10 + Decimal.digitValue d < Nat.pow 2 64 :=
      Nat.lt_of_le_of_lt (Nat.le_add_right_of_le (Nat.le_mul_of_pos_right _ (Nat.pow_pos (by decide)))) h
    rw [Number.gather, if_pos hnext, ih h]

private theorem isFinite_largest : ∀ k < 18,
    ((Binary64.ofNat (min (Nat.pow 10 17) (Binary64.largestDecimal / Nat.pow 10 (291 + k)))).mul
      (Binary64.powerOfTen (291 + k))).isFinite = true := by
  decide +kernel

private theorem isFinite_mul_powerOfTen {c n : Nat} (hc : c ≤ Nat.pow 10 17) (hn : n ≤ 308)
    (hv : c * Nat.pow 10 n ≤ Binary64.largestDecimal) :
    ((Binary64.ofNat c).mul (Binary64.powerOfTen n)).isFinite = true := by
  have hcoefficient : c ≤ Binary64.largestDecimal / Nat.pow 10 (291 + (n - 291)) := by
    rcases Nat.le_total n 291 with h | h
    · rw [Nat.sub_eq_zero_of_le h]
      exact hc.trans (by decide +kernel)
    · rw [Nat.add_sub_cancel' h]
      exact (Nat.le_div_iff_mul_le (Nat.pow_pos (by decide))).mpr hv
  have hpower : Nat.pow 10 n ≤ Nat.pow 10 (291 + (n - 291)) :=
    Nat.pow_le_pow_right (by decide) (by omega)
  exact Binary64.isFinite_mul_of_le (Binary64.units_ofNat_mono (le_min hc hcoefficient))
    (Binary64.units_ofNat_mono hpower) (isFinite_largest (n - 291) (by omega))

private theorem scaled?_isSome {c : Nat} {e : Int} (hc : c ≤ Nat.pow 10 17)
    (hv : ∀ n : Nat, e = n → c * Nat.pow 10 n ≤ Binary64.largestDecimal) :
    (Number.scaled? c e).isSome = true := by
  unfold Number.scaled?
  dsimp only
  split
  · next he =>
    obtain ⟨n, rfl⟩ := Int.eq_ofNat_of_zero_le he
    have hv := hv n rfl
    split
    · next hn =>
      rw [Int.toNat_natCast, Option.filter_some, if_pos (isFinite_mul_powerOfTen hc (by omega) hv)]
      rfl
    · next hn =>
      split
      · rfl
      · next hne =>
        have := Binary64.le_of_le_largestDecimal (Nat.pos_of_ne_zero hne) hv
        omega
  · rfl

private theorem scaled?_isSome_of_nonpos {c : Nat} {e : Int} (hc : c ≤ Nat.pow 10 17) (he : e ≤ 0) :
    (Number.scaled? c e).isSome = true := by
  refine scaled?_isSome hc fun n hn => ?_
  obtain rfl : n = 0 := by omega
  exact (Nat.mul_one c).trans_le (hc.trans (by decide +kernel))

private theorem float?_isSome {l : NumberLiteral} {fs : List Char} (hf : l.fraction.getD [] = fs)
    (hsize : Decimal.value (l.whole ++ fs) ≤ Nat.pow 10 17)
    (hexp : ∀ ds, l.exponent = some (false, ds) → Decimal.value ds < Nat.pow 2 31 ∧
      (Number.scaled? (Decimal.value (l.whole ++ fs)) (Decimal.value ds - fs.length)).isSome = true) :
    (Number.float? l).isSome = true := by
  rw [Decimal.value_append] at hsize hexp
  have hsize' := Nat.lt_of_le_of_lt hsize (show Nat.pow 10 17 < Nat.pow 2 64 by decide)
  have hwhole : Decimal.value l.whole ≤ Decimal.value l.whole * 10 ^ fs.length :=
    Nat.le_mul_of_pos_right _ (Nat.pow_pos (by decide))
  have hlead : Number.gather 0 l.whole = (Decimal.value l.whole, []) := by
    have hfit : 0 * 10 ^ l.whole.length + Decimal.value l.whole < Nat.pow 2 64 := by omega
    simpa using gather_eq hfit
  have hrest := gather_eq hsize'
  unfold Number.float?
  simp only [hlead, hf, hrest, List.length_nil, Nat.sub_zero, Int.zero_sub, Nat.cast_zero,
    Option.isSome_map]
  split
  · exact scaled?_isSome_of_nonpos hsize (by omega)
  · next negative ds he =>
    split
    · cases negative with
      | true => exact scaled?_isSome_of_nonpos hsize (by simp only [if_true]; omega)
      | false =>
        have := (hexp ds he).2
        rwa [Int.sub_eq_add_neg, Int.add_comm] at this
    · next hlarge =>
      cases negative with
      | true => simp
      | false => exact absurd (hexp ds he).1 hlarge

section Size

variable {negative : Bool} {ds : List Char} {point e : Int}

private theorem value_plainLiteral (hds : ∀ c ∈ ds, c.isDigit = true)
    (hsize : Decimal.value ds ≤ Nat.pow 10 17) (hpoint : point ≤ 16) :
    Decimal.value ((plainLiteral negative ds point).whole ++
      (plainLiteral negative ds point).fraction.getD []) ≤ Nat.pow 10 17 := by
  unfold plainLiteral
  split
  · have hzero : Decimal.value ['0'] = 0 := rfl
    dsimp only [Option.getD_some]
    rw [Decimal.value_append, Decimal.value_append, Decimal.value_zeros, hzero, Nat.zero_mul,
      Nat.zero_mul, Nat.zero_add, Nat.zero_add]
    exact hsize
  · split
    · next hpos hlen =>
      dsimp only [Option.getD_some]
      generalize hall : ds ++ List.replicate (point.toNat - ds.length) '0' ++ ['0'] = all
      have hdigits : ∀ c ∈ all, c.isDigit = true := by
        rw [← hall]
        simp only [List.mem_append, List.mem_singleton]
        rintro c ((hc | hc) | rfl)
        · exact hds c hc
        · exact isDigit_zeros _ c hc
        · rfl
      have hlength : all.length ≤ 17 := by
        rw [← hall]
        simp only [List.length_append, List.length_replicate, List.length_singleton]
        omega
      exact (Nat.le_of_lt (Decimal.value_lt hdigits)).trans
        (Nat.pow_le_pow_right (by decide) hlength)
    · simpa using hsize

private theorem append_exponentLiteral : (exponentLiteral negative ds e).whole ++
    (exponentLiteral negative ds e).fraction.getD [] = ds := by
  unfold exponentLiteral
  rcases ds with _ | ⟨d, _ | ⟨d', r⟩⟩ <;> simp

private theorem length_fraction_exponentLiteral :
    ((exponentLiteral negative ds e).fraction.getD []).length = ds.length - 1 := by
  unfold exponentLiteral
  rcases ds with _ | ⟨d, _ | ⟨d', r⟩⟩ <;> simp

private theorem exponent_plainLiteral : (plainLiteral negative ds point).exponent = none := by
  unfold plainLiteral
  split_ifs <;> rfl

end Size

private theorem float?_floatLiteral {x : Binary64} (h : x.isFinite = true) :
    (Number.float? (floatLiteral x)).isSome = true := by
  have hb := Binary64.shortest_bounded .toEven h
  unfold floatLiteral
  dsimp only
  generalize x.shortest .toEven = d at hb
  have hlen : 0 < (Decimal.digits d.coefficient).length :=
    List.length_pos_iff.mpr (Decimal.digits_ne_nil _)
  have hshort : (Decimal.digits d.coefficient).length ≤ 17 :=
    Decimal.length_digits_le (by decide) hb.coefficient_lt
  have hvalue : Decimal.value (Decimal.digits d.coefficient) ≤ Nat.pow 10 17 :=
    (Decimal.value_digits _).trans_le (Nat.le_of_lt hb.coefficient_lt)
  split
  · next hwindow =>
    refine float?_isSome rfl (value_plainLiteral (Decimal.isDigit_of_mem_digits _) hvalue (by omega))
      fun ds hds => ?_
    rw [exponent_plainLiteral] at hds
    cases hds
  · next hwindow =>
    refine float?_isSome rfl (by rwa [append_exponentLiteral]) fun ds hds => ?_
    obtain ⟨hsign, rfl⟩ : ¬ d.exponent + (Decimal.digits d.coefficient).length - 1 < 0 ∧
        Decimal.digits (d.exponent + (Decimal.digits d.coefficient).length - 1).natAbs = ds := by
      simpa [exponentLiteral] using hds
    have hle := hb.exponent_le
    rw [append_exponentLiteral, length_fraction_exponentLiteral, Decimal.value_digits,
      Decimal.value_digits]
    refine ⟨Nat.lt_of_le_of_lt (m := 324) (by omega) (by decide), ?_⟩
    rw [show ((d.exponent + (Decimal.digits d.coefficient).length - 1).natAbs : Int) -
      ((Decimal.digits d.coefficient).length - 1 : Nat) = d.exponent by omega]
    exact scaled?_isSome (Nat.le_of_lt hb.coefficient_lt) hb.value_le

private theorem floatLiteral_not_whole (x : Binary64) :
    ((floatLiteral x).fraction.isSome || (floatLiteral x).exponent.isSome) = true := by
  unfold floatLiteral plainLiteral exponentLiteral
  dsimp only
  split_ifs <;> rfl

namespace Number

theorem reread?_whole {n : Nat} (h : n < Nat.pow 2 64) :
    (whole n).reread? = some (.whole n) := by
  have hsign : ¬ (n : Int) < 0 := by omega
  simp only [reread?, literal?, Option.bind_some, ofLiteral?, Option.isSome_none, Bool.or_self,
    Bool.false_eq_true, if_false, hsign, decide_false, Int.natAbs_natCast, Decimal.value_digits]
  rw [if_pos h]

/-- The numeral of a finite number is read back as some number. -/
theorem reread?_float_isSome (x : Binary64) : (float x).reread?.isSome = x.isFinite := by
  cases hx : x.isFinite with
  | false => simp [reread?, literal?, hx]
  | true => simp [reread?, literal?, hx, ofLiteral?, floatLiteral_not_whole, float?_floatLiteral hx]

end Number
end TableAudit.Json
