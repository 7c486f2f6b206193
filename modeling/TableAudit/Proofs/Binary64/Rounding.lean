import TableAudit.Binary64.Basic
import Mathlib.Data.Nat.Log
import Mathlib.Tactic.Ring

/-! Rounding keeps order, so a product of two magnitudes is finite when a larger one is. -/
namespace TableAudit.Binary64

private theorem roundDiv_mono (d : Nat) {n n' : Nat} (h : n ≤ n') :
    roundDiv n d ≤ roundDiv n' d := by
  have hq : n / d ≤ n' / d := Nat.div_le_div_right h
  have e := Nat.div_add_mod n d
  have e' := Nat.div_add_mod n' d
  unfold roundDiv
  rcases Nat.lt_or_eq_of_le hq with hlt | heq
  · dsimp only
    split_ifs <;> omega
  · rw [← heq] at e' ⊢
    dsimp only
    split_ifs <;> omega

private theorem div_le_roundDiv (n d : Nat) : n / d ≤ roundDiv n d := by
  unfold roundDiv
  dsimp only
  split_ifs <;> omega

private theorem roundDiv_le_of_lt {n d k : Nat} (h : n < k * d) : roundDiv n d ≤ k := by
  have hq : n / d < k := Nat.div_lt_of_lt_mul (by rwa [Nat.mul_comm])
  unfold roundDiv
  dsimp only
  split_ifs <;> omega

private def shiftOf (N d : Nat) : Nat := (N / d).log2 - 52

private theorem shiftOf_mono (d : Nat) {N N' : Nat} (h : N ≤ N') : shiftOf N d ≤ shiftOf N' d := by
  unfold shiftOf
  rw [Nat.log2_eq_log_two, Nat.log2_eq_log_two]
  exact Nat.sub_le_sub_right (Nat.log_mono_right (Nat.div_le_div_right h)) 52

private theorem pos_of_shiftOf {N d : Nat} (hs : 0 < shiftOf N d) : 0 < d := by
  rcases Nat.eq_zero_or_pos d with rfl | hd
  · simp [shiftOf] at hs
  · exact hd

private theorem lt_of_shiftOf {N d : Nat} (hd : 0 < d) :
    N < Nat.pow 2 53 * (d * Nat.pow 2 (shiftOf N d)) := by
  have hlog : N / d < 2 ^ ((N / d).log2 + 1) := Nat.lt_log2_self
  have hpow : 2 ^ ((N / d).log2 + 1) ≤ 2 ^ (53 + shiftOf N d) :=
    Nat.pow_le_pow_right (by decide) (by unfold shiftOf; omega)
  have hN : N < 2 ^ (53 + shiftOf N d) * d :=
    (Nat.div_lt_iff_lt_mul hd).mp (Nat.lt_of_lt_of_le hlog hpow)
  calc N < 2 ^ (53 + shiftOf N d) * d := hN
    _ = Nat.pow 2 53 * (d * Nat.pow 2 (shiftOf N d)) := by
      rw [Nat.pow_add, Nat.pow_eq, Nat.pow_eq]; ring

private theorem le_of_shiftOf {N d : Nat} (hs : 0 < shiftOf N d) :
    Nat.pow 2 52 ≤ N / (d * Nat.pow 2 (shiftOf N d)) := by
  have hne : N / d ≠ 0 := by
    intro h
    simp [shiftOf, h] at hs
  have hlog : 2 ^ (N / d).log2 ≤ N / d := Nat.log2_self_le hne
  rw [← Nat.div_div_eq_div_mul]
  refine (Nat.le_div_iff_mul_le (Nat.two_pow_pos _)).mpr ?_
  calc Nat.pow 2 52 * Nat.pow 2 (shiftOf N d) = 2 ^ (52 + shiftOf N d) := by
        rw [Nat.pow_add, Nat.pow_eq, Nat.pow_eq]
    _ = 2 ^ (N / d).log2 := by
      congr 1
      unfold shiftOf at hs ⊢
      omega
    _ ≤ N / d := hlog

private def uncapped (N d : Nat) : Nat :=
  roundDiv N (d * Nat.pow 2 (shiftOf N d)) + shiftOf N d * Nat.pow 2 52

private theorem uncapped_mono (d : Nat) {N N' : Nat} (h : N ≤ N') :
    uncapped N d ≤ uncapped N' d := by
  unfold uncapped
  rcases Nat.lt_or_eq_of_le (shiftOf_mono d h) with hlt | heq
  · -- a larger step starts where the smaller one ends
    have low : roundDiv N (d * Nat.pow 2 (shiftOf N d)) ≤ Nat.pow 2 53 :=
      roundDiv_le_of_lt (lt_of_shiftOf (pos_of_shiftOf (Nat.zero_lt_of_lt hlt)))
    have high : Nat.pow 2 52 ≤ roundDiv N' (d * Nat.pow 2 (shiftOf N' d)) :=
      (le_of_shiftOf (by omega)).trans (div_le_roundDiv _ _)
    have hstep : (shiftOf N d + 1) * Nat.pow 2 52 ≤ shiftOf N' d * Nat.pow 2 52 :=
      Nat.mul_le_mul_right _ hlt
    have hpow : Nat.pow 2 53 = 2 * Nat.pow 2 52 := rfl
    rw [Nat.add_mul] at hstep
    omega
  · rw [heq]
    exact Nat.add_le_add_right (roundDiv_mono _ h) _

theorem nearestCode_mono (d : Nat) {n n' : Nat} (h : n ≤ n') :
    nearestCode n d ≤ nearestCode n' d := by
  have key := uncapped_mono d (Nat.mul_le_mul_right (Nat.pow 2 1074) h)
  exact le_min ((min_le_left _ _).trans key) (min_le_right _ _)

private theorem nearestCode_le (n d : Nat) : nearestCode n d ≤ infinityCode := Nat.min_le_right _ _

theorem unitsOfCode_mono {c c' : Nat} (h : c ≤ c') : unitsOfCode c ≤ unitsOfCode c' := by
  unfold unitsOfCode
  have hpos : 0 < Nat.pow 2 52 := by decide
  have hq : c / Nat.pow 2 52 ≤ c' / Nat.pow 2 52 := Nat.div_le_div_right h
  have e := Nat.div_add_mod c (Nat.pow 2 52)
  have e' := Nat.div_add_mod c' (Nat.pow 2 52)
  have hr := Nat.mod_lt c hpos
  generalize Nat.pow 2 52 = half at *
  by_cases hc : c < half
  · rw [if_pos hc]
    split
    · exact h
    · calc c ≤ c' % half + half := by omega
        _ ≤ (c' % half + half) * Nat.pow 2 (c' / half - 1) :=
          Nat.le_mul_of_pos_right _ (Nat.two_pow_pos _)
  · rw [if_neg hc, if_neg (by omega)]
    have hone : 1 ≤ c / half := (Nat.one_le_div_iff hpos).mpr (by omega)
    rcases Nat.lt_or_eq_of_le hq with hlt | heq
    · calc (c % half + half) * Nat.pow 2 (c / half - 1)
          ≤ (2 * half) * Nat.pow 2 (c / half - 1) := Nat.mul_le_mul_right _ (by omega)
        _ = half * Nat.pow 2 (c / half - 1 + 1) := by
          simp only [Nat.pow_eq, Nat.pow_succ]
          ring
        _ ≤ half * Nat.pow 2 (c' / half - 1) :=
          Nat.mul_le_mul_left _ (Nat.pow_le_pow_right (by decide) (by omega))
        _ ≤ (c' % half + half) * Nat.pow 2 (c' / half - 1) :=
          Nat.mul_le_mul_right _ (by omega)
    · rw [heq] at e ⊢
      exact Nat.mul_le_mul_right _ (by omega)

private theorem code_ofCode (negative : Bool) {c : Nat} (h : c < Nat.pow 2 63) :
    (ofCode negative c).code = c := by
  have hpow : Nat.pow 2 63 = 9223372036854775808 := rfl
  unfold ofCode code
  rw [hpow] at h ⊢
  cases negative <;> simp only [Bool.false_eq_true, if_true, if_false, UInt64.toNat_ofNat'] <;> omega

private theorem infinityCode_lt : infinityCode < Nat.pow 2 63 := by decide

theorem code_ofRatio (negative : Bool) (n d : Nat) : (ofRatio negative n d).code = nearestCode n d :=
  code_ofCode negative ((nearestCode_le n d).trans_lt infinityCode_lt)

theorem units_ofNat_mono {n n' : Nat} (h : n ≤ n') : (ofNat n).units ≤ (ofNat n').units := by
  unfold units ofNat
  rw [code_ofRatio, code_ofRatio]
  exact unitsOfCode_mono (nearestCode_mono 1 h)

private theorem isFinite_mul_iff (x y : Binary64) : (x.mul y).isFinite = true ↔
    nearestCode (x.units * y.units) (Nat.pow 2 1074 * Nat.pow 2 1074) < infinityCode := by
  unfold mul scale isFinite
  simp only [code_ofRatio, decide_eq_true_iff]

/-- A product stays finite when its factors get smaller. -/
theorem isFinite_mul_of_le {x y x' y' : Binary64} (hx : x.units ≤ x'.units) (hy : y.units ≤ y'.units)
    (h : (x'.mul y').isFinite = true) : (x.mul y).isFinite = true := by
  rw [isFinite_mul_iff] at h
  refine (isFinite_mul_iff x y).mpr (Nat.lt_of_le_of_lt ?_ h)
  exact nearestCode_mono _ (Nat.mul_le_mul hx hy)

end TableAudit.Binary64
