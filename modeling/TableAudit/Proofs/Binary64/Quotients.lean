import TableAudit.Proofs.Binary64.Rounding

/-! Rounding looks at a quotient only, and gives a number back from its own magnitude. -/
namespace TableAudit.Binary64

private theorem roundDiv_mul_right (n d : Nat) {k : Nat} (hk : 0 < k) :
    roundDiv (n * k) (d * k) = roundDiv n d := by
  have hq : n * k / (d * k) = n / d := Nat.mul_div_mul_right n d hk
  have hr : n * k % (d * k) = n % d * k := Nat.mul_mod_mul_right k n d
  have hlow : 2 * (n % d * k) < d * k ↔ 2 * (n % d) < d := by
    rw [← Nat.mul_assoc]
    exact Nat.mul_lt_mul_right hk
  have hhigh : d * k < 2 * (n % d * k) ↔ d < 2 * (n % d) := by
    rw [← Nat.mul_assoc]
    exact Nat.mul_lt_mul_right hk
  rw [roundDiv, roundDiv, hq, hr]
  simp only [hlow, hhigh]

private theorem nearestCode_mul_right (n d : Nat) {k : Nat} (hk : 0 < k) :
    nearestCode (n * k) (d * k) = nearestCode n d := by
  have hn : n * k * Nat.pow 2 1074 = n * Nat.pow 2 1074 * k := Nat.mul_right_comm _ _ _
  rw [nearestCode, nearestCode, hn, Nat.mul_div_mul_right _ _ hk, Nat.mul_right_comm d k,
    roundDiv_mul_right _ _ hk]

private theorem nearestCode_le_of_mul_le {n d n' d' : Nat} (hd : 0 < d) (hd' : 0 < d')
    (h : n * d' ≤ n' * d) : nearestCode n d ≤ nearestCode n' d' :=
  calc nearestCode n d = nearestCode (n * d') (d * d') := (nearestCode_mul_right n d hd').symm
    _ ≤ nearestCode (n' * d) (d * d') := nearestCode_mono _ h
    _ = nearestCode (n' * d) (d' * d) := by rw [Nat.mul_comm d]
    _ = nearestCode n' d' := nearestCode_mul_right n' d' hd

private theorem roundDiv_mul_self (n : Nat) {d : Nat} (hd : 0 < d) : roundDiv (n * d) d = n := by
  rw [roundDiv, Nat.mul_div_cancel _ hd, Nat.mul_mod_left]
  simp [hd]

private theorem exists_unitsOfCode_eq (c : Nat) :
    ∃ m s, unitsOfCode c = m * 2 ^ s ∧ c = m + s * 2 ^ 52 ∧
    m < 2 ^ 53 ∧ (s = 0 ∨ 2 ^ 52 ≤ m) := by
  rw [unitsOfCode]
  simp only [Nat.pow_eq]
  split
  · next hlow => exact ⟨c, 0, by omega, by omega, by omega, .inl rfl⟩
  · next hhigh => exact ⟨_, _, rfl, by omega, by omega, by omega⟩

private theorem log2_mul_two_pow {m s : Nat} (hm : m < 2 ^ 53) (hs : s = 0 ∨ 2 ^ 52 ≤ m) :
    (m * 2 ^ s).log2 - 52 = s := by
  rcases hs with rfl | hs
  · rcases Nat.eq_zero_or_pos m with rfl | hpos
    · rfl
    · have hlog := (Nat.log2_lt (Nat.ne_of_gt hpos)).mpr hm
      rw [Nat.pow_zero, Nat.mul_one]
      omega
  · have hlog : (m * 2 ^ s).log2 = 52 + s := by
      rw [Nat.log2_eq_iff (Nat.ne_of_gt (Nat.mul_pos (by omega) (Nat.two_pow_pos s))), Nat.pow_add,
        show 52 + s + 1 = 53 + s by omega, Nat.pow_add]
      exact ⟨Nat.mul_le_mul_right _ hs, Nat.mul_lt_mul_of_pos_right hm (Nat.two_pow_pos s)⟩
    rw [hlog, Nat.add_sub_cancel_left]

private theorem roundDiv_steps {m s unit : Nat} (hm : m < 2 ^ 53) (hs : s = 0 ∨ 2 ^ 52 ≤ m)
    (hunit : 0 < unit) :
    roundDiv (m * 2 ^ s * unit) (unit * Nat.pow 2 ((m * 2 ^ s * unit / unit).log2 - 52)) +
      ((m * 2 ^ s * unit / unit).log2 - 52) * Nat.pow 2 52 = m + s * 2 ^ 52 := by
  have hsplit : m * 2 ^ s * unit = m * (unit * Nat.pow 2 s) := by
    rw [Nat.mul_assoc, Nat.mul_comm (2 ^ s), ← @Nat.pow_eq 2 s]
  have hstep : 0 < unit * Nat.pow 2 s := Nat.mul_pos hunit (Nat.two_pow_pos s)
  rw [Nat.mul_div_cancel _ hunit, log2_mul_two_pow hm hs, hsplit, roundDiv_mul_self _ hstep]
  rfl

private theorem nearestCode_unitsOfCode {c : Nat} (h : c ≤ infinityCode) :
    nearestCode (unitsOfCode c) (Nat.pow 2 1074) = c := by
  obtain ⟨m, s, hunits, hcode, hm, hs⟩ := exists_unitsOfCode_eq c
  have hunit : 0 < Nat.pow 2 1074 := Nat.two_pow_pos _
  rw [nearestCode, hunits, roundDiv_steps hm hs hunit, ← hcode]
  exact Nat.min_eq_left h

private theorem nearestCode_div_le (n : Nat) {unit u : Nat} (hunit : 0 < unit) (hu : unit ≤ u) :
    nearestCode (n * unit) (unit * u) ≤ nearestCode n unit := by
  refine nearestCode_le_of_mul_le (Nat.mul_pos hunit (Nat.lt_of_lt_of_le hunit hu)) hunit ?_
  rw [Nat.mul_assoc]
  exact Nat.mul_le_mul_left _ (Nat.mul_le_mul_left _ hu)

/-- A magnitude does not grow when it is divided by a number of at least one. -/
theorem code_div_le {x y : Binary64} (hx : x.code ≤ infinityCode) (hy : Nat.pow 2 1074 ≤ y.units) :
    (x.div y).code ≤ x.code := by
  have hunit : 0 < Nat.pow 2 1074 := Nat.two_pow_pos _
  calc (x.div y).code = nearestCode (x.units * Nat.pow 2 1074) (Nat.pow 2 1074 * y.units) := by
        rw [div, scale, code_ofRatio]
    _ ≤ nearestCode x.units (Nat.pow 2 1074) := nearestCode_div_le _ hunit hy
    _ = x.code := nearestCode_unitsOfCode hx

theorem units_powerOfTen (e : Nat) : Nat.pow 2 1074 ≤ (powerOfTen e).units := by
  have hone : Nat.pow 2 1074 ≤ (ofNat 1).units := by decide +kernel
  exact hone.trans (units_ofNat_mono (Nat.pow_pos (by decide)))

theorem isFinite_iff (x : Binary64) : x.isFinite = true ↔ x.code < infinityCode :=
  decide_eq_true_iff

theorem code_neg (x : Binary64) : x.neg.code = x.code := by
  have hsign : (0x8000000000000000 : UInt64).toNat % 2 ^ 63 = 0 := rfl
  show (x.bits ^^^ 0x8000000000000000).toNat % 2 ^ 63 = x.bits.toNat % 2 ^ 63
  rw [UInt64.toNat_xor, Nat.xor_mod_two_pow, hsign, Nat.xor_zero]

/-- Whole numbers of 64 bits are finite. -/
theorem isFinite_ofRatio_one (negative : Bool) {n : Nat} (h : n ≤ Nat.pow 2 64) :
    (ofRatio negative n 1).isFinite = true := by
  have hlargest : nearestCode (Nat.pow 2 64) 1 < infinityCode := by decide +kernel
  rw [isFinite_iff, code_ofRatio]
  exact (nearestCode_mono 1 h).trans_lt hlargest

end TableAudit.Binary64
