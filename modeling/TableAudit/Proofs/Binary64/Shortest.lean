import TableAudit.Binary64.Shortest
import TableAudit.Proofs.Binary64.Rounding
import TableAudit.Proofs.Text.Decimal

/-! The size of the shortest digits: at most seventeen of them, and no larger in value than those of
the largest finite number. -/
namespace TableAudit.Binary64

/-- The value of the digits of the largest finite number. It is just below that number, so a larger
numeral of seventeen digits need not be finite. -/
def largestDecimal : Nat := 17976931348623157 * Nat.pow 10 292

structure Digits.Bounded (d : Digits) : Prop where
  coefficient_lt : d.coefficient < Nat.pow 10 17
  zero : d.coefficient = 0 → d.exponent = 0
  value_le : ∀ e : Nat, d.exponent = e → d.coefficient * Nat.pow 10 e ≤ largestDecimal

/-- Behind more zeros even the coefficient one is above every finite number. -/
theorem le_of_le_largestDecimal {c n : Nat} (hc : 0 < c)
    (h : c * Nat.pow 10 n ≤ largestDecimal) : n ≤ 308 := by
  refine Nat.le_of_not_lt fun hn => ?_
  have hlarge : largestDecimal < Nat.pow 10 309 := by decide +kernel
  have hpow : Nat.pow 10 309 ≤ Nat.pow 10 n := Nat.pow_le_pow_right (by decide) hn
  have hone : Nat.pow 10 n ≤ c * Nat.pow 10 n := Nat.le_mul_of_pos_left _ hc
  exact absurd h (Nat.not_le_of_lt (Nat.lt_of_lt_of_le hlarge (Nat.le_trans hpow hone)))

theorem Digits.Bounded.exponent_le {d : Digits} (h : d.Bounded) : d.exponent ≤ 308 := by
  rcases Nat.eq_zero_or_pos d.coefficient with hc | hc
  · rw [h.zero hc]
    decide
  · refine Int.le_of_not_gt fun hlt => ?_
    obtain ⟨n, hn⟩ := Int.eq_ofNat_of_zero_le (show 0 ≤ d.exponent by omega)
    have := le_of_le_largestDecimal hc (h.value_le n hn)
    omega

private theorem ratio_snd_pos (n : Nat) (e : Int) : 0 < (tenPowerRatio n e).2 := by
  unfold tenPowerRatio
  split
  · exact Nat.one_pos
  · exact Nat.pow_pos (by decide)

private theorem ratio_add (e : Int) (k : Nat) :
    (tenPowerRatio 1 (e + k)).1 * (tenPowerRatio 1 e).2 =
      10 ^ k * (tenPowerRatio 1 e).1 * (tenPowerRatio 1 (e + k)).2 := by
  simp only [tenPowerRatio, Nat.one_mul, Nat.pow_eq]
  by_cases he : 0 ≤ e
  · rw [if_pos he, if_pos (by omega), show (e + k).toNat = k + e.toNat by omega, Nat.pow_add]
  · rw [if_neg he]
    split
    · rw [← Nat.pow_add, show (e + k).toNat + (-e).toNat = k by omega]
      ring
    · rw [show (-e).toNat = k + (-(e + k)).toNat by omega, Nat.pow_add]
      ring

private theorem ratio_one_sub {p : Nat} (hp : 0 < p) :
    tenPowerRatio 1 (1 - (p : Int)) = (1, 10 ^ (p - 1)) := by
  unfold tenPowerRatio
  split
  · obtain rfl : p = 1 := by omega
    rfl
  · rw [show (-(1 - (p : Int))).toNat = p - 1 by omega]
    rfl

private theorem lt_leadingExponent {u : Nat} (hu : 0 < u) :
    u * (tenPowerRatio 1 (leadingExponent u + 1)).2 <
      (tenPowerRatio 1 (leadingExponent u + 1)).1 * Nat.pow 2 1074 := by
  unfold leadingExponent
  have hpos : 0 < Nat.pow 2 1074 := Nat.two_pow_pos _
  generalize Nat.pow 2 1074 = one at *
  simp only [Nat.pow_eq]
  split
  · have hlen : 0 < (Decimal.digits (u / one)).length :=
      List.length_pos_iff.mpr (Decimal.digits_ne_nil _)
    have hlt := (Nat.div_lt_iff_lt_mul hpos).mp (Decimal.lt_pow_length_digits (u / one))
    simpa [tenPowerRatio] using hlt
  · next hlt =>
    have hq : 0 < one / u := Nat.div_pos (by omega) hu
    have hlen : 0 < (Decimal.digits (one / u)).length :=
      List.length_pos_iff.mpr (Decimal.digits_ne_nil _)
    have hle := (Nat.le_div_iff_mul_le hu).mp (Decimal.pow_length_digits_le hq)
    generalize (Decimal.digits (one / u)).length = places at *
    rw [Nat.mul_comm] at hle
    split
    · next hge =>
      -- the magnitude is a power of ten, and less than one
      have heq : u * 10 ^ (places - 1) = one := Nat.le_antisymm hle hge
      have hplaces : 2 ≤ places := by
        rcases Nat.lt_or_ge places 2 with hp | hp
        · obtain rfl : places = 1 := by omega
          omega
        · exact hp
      have hpow : 10 ^ (places - 1) = 10 ^ (places - 1 - 1) * 10 := by
        rw [← Nat.pow_succ, show (places - 1 - 1).succ = places - 1 by omega]
      have hp : 0 < u * 10 ^ (places - 1 - 1) := Nat.mul_pos hu (Nat.pow_pos (by decide))
      rw [hpow, ← Nat.mul_assoc] at heq
      rw [show 1 - (places : Int) + 1 = 1 - ((places - 1 : Nat) : Int) by omega,
        ratio_one_sub (by omega)]
      dsimp only
      omega
    · next hlt =>
      rw [show -(places : Int) + 1 = 1 - places by ring, ratio_one_sub hlen]
      dsimp only
      omega

private def gridSteps (u : Nat) (e : Int) : Nat :=
  u * (tenPowerRatio 1 e).2 / ((tenPowerRatio 1 e).1 * Nat.pow 2 1074)

private theorem gridSteps_lt {u : Nat} (hu : 0 < u) (i : Nat) :
    gridSteps u (leadingExponent u - i) < 10 ^ (i + 1) := by
  unfold gridSteps
  have hlead := lt_leadingExponent hu
  have hpos : 0 < Nat.pow 2 1074 := Nat.two_pow_pos _
  have hratio := ratio_add (leadingExponent u - i) (i + 1)
  rw [show leadingExponent u - (i : Int) + ((i + 1 : Nat) : Int) = leadingExponent u + 1 by
    push_cast; ring] at hratio
  have hm := ratio_snd_pos 1 (leadingExponent u + 1)
  generalize Nat.pow 2 1074 = one at *
  generalize (leadingExponent u - i) = e at *
  generalize tenPowerRatio 1 (leadingExponent u + 1) = top at *
  have hn : 0 < (tenPowerRatio 1 e).1 := by
    unfold tenPowerRatio
    split
    · simp
    · exact Nat.one_pos
  rw [Nat.div_lt_iff_lt_mul (Nat.mul_pos hn hpos)]
  refine Nat.lt_of_mul_lt_mul_right (a := top.2) ?_
  calc u * (tenPowerRatio 1 e).2 * top.2 = u * top.2 * (tenPowerRatio 1 e).2 := by ring
    _ < top.1 * one * (tenPowerRatio 1 e).2 := Nat.mul_lt_mul_of_pos_right hlead (ratio_snd_pos 1 e)
    _ = top.1 * (tenPowerRatio 1 e).2 * one := by ring
    _ = 10 ^ (i + 1) * ((tenPowerRatio 1 e).1 * one) * top.2 := by rw [hratio]; ring

private theorem first_readsBack {c : Nat} {a b d : Digits}
    (h : (if readsBack c a then some a else if readsBack c b then some b else none) = some d) :
    readsBack c d = true ∧ (d = a ∨ d = b) := by
  split at h
  · next ha =>
    cases h
    exact ⟨ha, .inl rfl⟩
  · split at h
    · next hb =>
      cases h
      exact ⟨hb, .inr rfl⟩
    · cases h

private theorem onGrid?_eq_some {tie : Tie} {c : Nat} {e : Int} {d : Digits}
    (h : onGrid? tie c e = some d) : readsBack c d = true ∧
      d.coefficient ≤ gridSteps (unitsOfCode c) e + 1 := by
  unfold onGrid? at h
  dsimp only at h
  generalize (decide (2 * _ < _) || _) = downward at h
  obtain ⟨hback, hd⟩ := first_readsBack h
  refine ⟨hback, ?_⟩
  unfold gridSteps
  cases downward <;> rcases hd with rfl | rfl <;> simp

private theorem unitsOfCode_pos {c : Nat} (h : 0 < c) : 0 < unitsOfCode c := by
  unfold unitsOfCode
  split
  · exact h
  · exact Nat.mul_pos (Nat.add_pos_right _ (Nat.two_pow_pos _)) (Nat.two_pow_pos _)

private theorem between_of_readsBack {c n m : Nat} {d : Digits} (h : readsBack c d = true)
    (hd : tenPowerRatio d.coefficient d.exponent = (n, m)) :
    (unitsOfCode (c - 1) + unitsOfCode c) * m ≤ n * Nat.pow 2 1075 ∧
      n * Nat.pow 2 1075 ≤ (unitsOfCode c + unitsOfCode (c + 1)) * m := by
  unfold readsBack at h
  rw [hd] at h
  dsimp only at h
  split at h
  · simpa only [Bool.and_eq_true, decide_eq_true_eq] using h
  · simp only [Bool.and_eq_true, decide_eq_true_eq] at h
    exact ⟨Nat.le_of_lt h.1, Nat.le_of_lt h.2⟩

private theorem coefficient_pos {c : Nat} {d : Digits} (hc : 0 < c) (h : readsBack c d = true) :
    0 < d.coefficient := by
  refine Nat.pos_of_ne_zero fun h0 => ?_
  have hpoint : (tenPowerRatio d.coefficient d.exponent).1 = 0 := by
    unfold tenPowerRatio
    split <;> simp [h0]
  have hm := ratio_snd_pos d.coefficient d.exponent
  cases hd : tenPowerRatio d.coefficient d.exponent with
  | mk n m =>
    rw [hd] at hpoint hm
    have hlow := (between_of_readsBack h hd).1
    rw [show n = 0 from hpoint, Nat.zero_mul] at hlow
    exact absurd (Nat.mul_pos (Nat.add_pos_right _ (unitsOfCode_pos hc)) hm) (Nat.not_lt.mpr hlow)

private theorem value_le_of_readsBack {c e : Nat} {d : Digits} (h : readsBack c d = true)
    (he : d.exponent = e) :
    d.coefficient * Nat.pow 10 e * Nat.pow 2 1075 ≤ unitsOfCode c + unitsOfCode (c + 1) := by
  have hratio : tenPowerRatio d.coefficient d.exponent = (d.coefficient * Nat.pow 10 e, 1) := by
    rw [he, tenPowerRatio, if_pos (Int.natCast_nonneg e), Int.toNat_natCast]
  exact (between_of_readsBack h hratio).2.trans_eq (Nat.mul_one _)

private theorem shortest_cases (tie : Tie) (x : Binary64) : x.shortest tie = ⟨0, 0⟩ ∨
    0 < x.code ∧ ∃ d : Digits, x.shortest tie = dropZero d ∧ readsBack x.code d = true ∧
      d.coefficient ≤ Nat.pow 10 17 := by
  unfold shortest
  split
  · exact .inl rfl
  · next hcode =>
    have hcode : 0 < x.code := Nat.pos_of_ne_zero hcode
    dsimp only
    generalize hfind : (List.range 17).findSome? _ = found
    cases found with
    | none => exact .inl rfl
    | some d =>
      refine .inr ⟨hcode, d, rfl, ?_⟩
      obtain ⟨i, hi, hgrid⟩ := List.exists_of_findSome?_eq_some hfind
      obtain ⟨hback, hle⟩ := onGrid?_eq_some hgrid
      have hlt : gridSteps x.units (leadingExponent x.units - i) < 10 ^ (i + 1) :=
        gridSteps_lt (unitsOfCode_pos hcode) i
      have hpow : 10 ^ (i + 1) ≤ Nat.pow 10 17 :=
        Nat.pow_le_pow_right (by decide) (Nat.succ_le_of_lt (List.mem_range.mp hi))
      exact ⟨hback, Nat.le_trans (Nat.le_trans hle hlt) hpow⟩

private theorem shortest_congr (tie : Tie) {x y : Binary64} (h : x.code = y.code) :
    x.shortest tie = y.shortest tie := by
  unfold shortest units
  rw [h]

private def largest : Binary64 := ofCode false (infinityCode - 1)

private theorem shortest_largest (tie : Tie) : largest.shortest tie = ⟨17976931348623157, 292⟩ := by
  cases tie <;> decide +kernel

private theorem units_below_largest :
    unitsOfCode (infinityCode - 2) + unitsOfCode (infinityCode - 1) ≤
      largestDecimal * Nat.pow 2 1075 := by
  decide +kernel

private theorem dropZero_bounded {d : Digits} (hpos : 0 < d.coefficient)
    (hle : d.coefficient ≤ Nat.pow 10 17)
    (hvalue : ∀ e : Nat, d.exponent = e → d.coefficient * Nat.pow 10 e ≤ largestDecimal) :
    (dropZero d).Bounded := by
  have hten : Nat.pow 10 17 = 100000000000000000 := rfl
  rw [hten] at hle
  unfold dropZero
  split
  · next hzero =>
    refine ⟨by rw [hten]; dsimp only; omega, fun h => by dsimp only at h; omega, fun e he => ?_⟩
    dsimp only at he ⊢
    cases e with
    | zero =>
      calc d.coefficient / 10 * Nat.pow 10 0 ≤ 100000000000000000 := by
            simp only [Nat.pow_eq, Nat.pow_zero, Nat.mul_one]
            omega
        _ ≤ largestDecimal := by decide +kernel
    | succ e =>
      calc d.coefficient / 10 * Nat.pow 10 (e + 1) = d.coefficient / 10 * 10 * Nat.pow 10 e := by
            simp only [Nat.pow_eq, Nat.pow_succ]
            ring
        _ ≤ d.coefficient * Nat.pow 10 e := Nat.mul_le_mul_right _ (Nat.div_mul_le_self _ _)
        _ ≤ largestDecimal := hvalue e (by push_cast at he; omega)
  · next hzero =>
    exact ⟨by rw [hten]; omega, fun h => absurd h (by omega), hvalue⟩

theorem shortest_bounded (tie : Tie) {x : Binary64} (h : x.isFinite = true) :
    (x.shortest tie).Bounded := by
  have hinf : infinityCode = 9218868437227405312 := rfl
  have hcode : x.code < infinityCode := of_decide_eq_true h
  rw [hinf] at hcode
  -- above the largest number lies infinity, and half way to it is too far
  by_cases hlast : x.code = infinityCode - 1
  · rw [shortest_congr tie (y := largest) (by rw [hlast]; rfl), shortest_largest]
    refine ⟨by decide, by decide, fun e he => ?_⟩
    obtain rfl : e = 292 := by dsimp only at he; omega
    exact Nat.le_refl _
  rcases shortest_cases tie x with heq | ⟨hpos, d, heq, hback, hle⟩
  · rw [heq]
    exact ⟨by decide, fun _ => rfl, fun e _ => by dsimp only; omega⟩
  · rw [heq]
    refine dropZero_bounded (coefficient_pos hpos hback) hle fun e he => ?_
    refine Nat.le_of_mul_le_mul_right (c := Nat.pow 2 1075) ?_ (Nat.two_pow_pos 1075)
    rw [hinf] at hlast
    calc d.coefficient * Nat.pow 10 e * Nat.pow 2 1075
        ≤ unitsOfCode x.code + unitsOfCode (x.code + 1) := value_le_of_readsBack hback he
      _ ≤ unitsOfCode (infinityCode - 2) + unitsOfCode (infinityCode - 1) :=
        Nat.add_le_add (unitsOfCode_mono (by rw [hinf]; omega))
          (unitsOfCode_mono (by rw [hinf]; omega))
      _ ≤ largestDecimal * Nat.pow 2 1075 := units_below_largest

end TableAudit.Binary64
