/-! Natural numbers in decimal: the digits of a number and the number of a digit string. -/
namespace TableAudit.Decimal

def digitChar (d : Nat) : Char := Char.ofNat (48 + d)

def digitValue (c : Char) : Nat := c.toNat - 48

def digits (n : Nat) : List Char :=
  if n < 10 then [digitChar n] else digits (n / 10) ++ [digitChar (n % 10)]

def value (cs : List Char) : Nat := cs.foldl (fun n c => 10 * n + digitValue c) 0

def text (n : Nat) : String := String.ofList (digits n)

private theorem digitValue_digitChar : ∀ d < 10, digitValue (digitChar d) = d := by decide

private theorem isDigit_digitChar : ∀ d < 10, (digitChar d).isDigit = true := by decide

theorem value_append_singleton (cs : List Char) (c : Char) :
    value (cs ++ [c]) = 10 * value cs + digitValue c := by
  simp [value]

theorem value_digits (n : Nat) : value (digits n) = n := by
  induction n using digits.induct with
  | case1 n h =>
    rw [digits, if_pos h]
    simp [value, digitValue_digitChar n h]
  | case2 n h ih =>
    rw [digits, if_neg h, value_append_singleton, ih, digitValue_digitChar _ (Nat.mod_lt n (by omega))]
    omega

theorem isDigit_of_mem_digits (n : Nat) : ∀ c ∈ digits n, c.isDigit = true := by
  induction n using digits.induct with
  | case1 n h =>
    rw [digits, if_pos h]
    simpa using isDigit_digitChar n h
  | case2 n h ih =>
    rw [digits, if_neg h]
    intro c hc
    rcases List.mem_append.mp hc with hc | hc
    · exact ih c hc
    · rw [List.mem_singleton.mp hc]
      exact isDigit_digitChar _ (Nat.mod_lt n (by omega))

theorem digits_ne_nil (n : Nat) : digits n ≠ [] := by
  rw [digits]
  split <;> simp

end TableAudit.Decimal
