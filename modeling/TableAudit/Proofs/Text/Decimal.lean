import TableAudit.Text.Decimal
import Mathlib.Data.List.Induction
import Mathlib.Tactic.IntervalCases
import Mathlib.Tactic.Ring

/-! Digit strings: their values by parts, and the size of a number against the length of its
digits. -/
namespace TableAudit.Decimal

theorem value_append (as bs : List Char) :
    value (as ++ bs) = value as * 10 ^ bs.length + value bs := by
  induction bs using List.reverseRecOn with
  | nil => simp [value]
  | append_singleton bs b ih =>
    rw [← List.append_assoc, value_append_singleton, value_append_singleton, ih, List.length_append,
      List.length_singleton]
    ring

theorem value_zeros (n : Nat) : value (List.replicate n '0') = 0 := by
  induction n with
  | zero => rfl
  | succ n ih => rw [List.replicate_succ', value_append_singleton, ih]; rfl

private theorem digitValue_le {c : Char} (h : c.isDigit = true) : digitValue c ≤ 9 := by
  simp only [Char.isDigit, Bool.and_eq_true, decide_eq_true_eq] at h
  have : c.toNat ≤ 57 := UInt32.le_iff_toNat_le.mp h.2
  unfold digitValue
  omega

theorem value_lt {cs : List Char} (h : ∀ c ∈ cs, c.isDigit = true) : value cs < 10 ^ cs.length := by
  induction cs using List.reverseRecOn with
  | nil => simp [value]
  | append_singleton cs c ih =>
    have hc := digitValue_le (h c (by simp))
    have hcs := ih fun d hd => h d (by simp [hd])
    rw [value_append_singleton, List.length_append, List.length_singleton, Nat.pow_succ]
    omega

theorem lt_pow_length_digits (n : Nat) : n < 10 ^ (digits n).length := by
  simpa [value_digits] using value_lt (isDigit_of_mem_digits n)

theorem pow_length_digits_le {n : Nat} (h : 0 < n) : 10 ^ ((digits n).length - 1) ≤ n := by
  induction n using digits.induct with
  | case1 n hn =>
    rw [digits, if_pos hn, List.length_singleton]
    exact h
  | case2 n hn ih =>
    have hpos : 0 < (digits (n / 10)).length := List.length_pos_iff.mpr (digits_ne_nil _)
    have hlen : (digits n).length - 1 = (digits (n / 10)).length - 1 + 1 := by
      rw [digits, if_neg hn, List.length_append, List.length_singleton]
      omega
    rw [hlen, Nat.pow_succ]
    have := ih (by omega)
    omega

theorem length_digits_le {n k : Nat} (hk : 0 < k) (h : n < 10 ^ k) : (digits n).length ≤ k := by
  rcases Nat.eq_zero_or_pos n with rfl | hn
  · rw [digits, if_pos (by decide)]
    exact hk
  · have := (Nat.pow_lt_pow_iff_right (by decide)).mp ((pow_length_digits_le hn).trans_lt h)
    omega

/-- No zero stands in front. -/
theorem head?_digits {n : Nat} (h : 0 < n) : (digits n).head? ≠ some '0' := by
  induction n using digits.induct with
  | case1 n hn =>
    rw [digits, if_pos hn]
    interval_cases n <;> decide
  | case2 n hn ih =>
    obtain ⟨d, ds, hds⟩ := List.exists_cons_of_ne_nil (digits_ne_nil (n / 10))
    rw [digits, if_neg hn, hds]
    rw [hds] at ih
    exact ih (by omega)

end TableAudit.Decimal
