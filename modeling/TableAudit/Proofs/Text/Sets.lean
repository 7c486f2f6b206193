import Mathlib.Data.List.Basic
import TableAudit.Text.CharSet

/-! The characters in unions and complements of sets. -/
namespace TableAudit.CharSet

def Within (ranges : List (Nat × Nat)) (n : Nat) : Prop := ∃ r ∈ ranges, r.1 ≤ n ∧ n ≤ r.2

/-- Ranges from a number on that are not empty and lie one behind the other. -/
def Ascending : Nat → List (Nat × Nat) → Prop
  | _, [] => True
  | start, r :: rest => start ≤ r.1 ∧ r.1 ≤ r.2 ∧ Ascending (r.2 + 1) rest

section Ranges

variable {ranges rest : List (Nat × Nat)} {r : Nat × Nat} {start n : Nat}

private theorem within_cons : Within (r :: rest) n ↔ (r.1 ≤ n ∧ n ≤ r.2) ∨ Within rest n :=
  List.exists_mem_cons_iff ..

private theorem not_within_nil : ¬ Within [] n := by simp [Within]

private theorem Ascending.mono (h : Ascending start ranges) {first : Nat} (hle : first ≤ start) :
    Ascending first ranges := by
  cases ranges with
  | nil => trivial
  | cons r rest => exact ⟨Nat.le_trans hle h.1, h.2⟩

private theorem Ascending.le_of_within (h : Ascending start ranges) (hn : Within ranges n) :
    start ≤ n := by
  induction ranges generalizing start with
  | nil => exact absurd hn not_within_nil
  | cons r rest ih =>
    obtain ⟨hstart, hr, hrest⟩ := h
    rcases within_cons.mp hn with hn | hn
    · omega
    · have := ih hrest hn
      omega

private theorem join_spec (hr : r.1 ≤ r.2) (h : Ascending r.1 rest) :
    Ascending r.1 (join r rest) ∧ ∀ n, Within (join r rest) n ↔ Within (r :: rest) n := by
  induction rest generalizing r with
  | nil => exact ⟨⟨Nat.le_refl _, hr, trivial⟩, fun _ => .rfl⟩
  | cons s rest ih =>
    obtain ⟨hstart, hs, hrest⟩ := h
    rw [join]
    split_ifs with htouch
    · -- The joined range may touch the next one as well, so the hypothesis is about it, not about `r`.
      have hle : r.1 ≤ max r.2 s.2 := by omega
      obtain ⟨hascending, hwithin⟩ :=
        @ih (r.1, max r.2 s.2) hle (hrest.mono (show r.1 ≤ s.2 + 1 by omega))
      refine ⟨hascending, fun n => (hwithin n).trans ?_⟩
      simp only [within_cons, ← or_assoc]
      refine or_congr_left ?_
      omega
    · exact ⟨⟨Nat.le_refl _, hr, by omega, hs, hrest⟩, fun _ => .rfl⟩

private theorem foldr_join_spec (hsorted : ranges.Pairwise fun r s => r.1 ≤ s.1)
    (hr : ∀ r ∈ ranges, r.1 ≤ r.2) (hstart : ∀ r ∈ ranges, start ≤ r.1) :
    Ascending start (ranges.foldr join []) ∧
      ∀ n, Within (ranges.foldr join []) n ↔ Within ranges n := by
  induction ranges generalizing start with
  | nil => exact ⟨trivial, fun _ => .rfl⟩
  | cons r rest ih =>
    rw [List.pairwise_cons] at hsorted
    rw [List.forall_mem_cons] at hr hstart
    obtain ⟨hascending, hwithin⟩ := ih hsorted.2 hr.2 hsorted.1
    obtain ⟨hjoined, hjoin⟩ := join_spec hr.1 hascending
    refine ⟨hjoined.mono hstart.1, fun n => (hjoin n).trans ?_⟩
    rw [within_cons, within_cons, hwithin]

private theorem ofRanges_spec (hr : ∀ r ∈ ranges, r.1 ≤ r.2) :
    Ascending 0 (ofRanges ranges).ranges ∧
    ∀ n, Within (ofRanges ranges).ranges n ↔ Within ranges n := by
  have hsorted : (ranges.mergeSort fun a b => a.1 ≤ b.1).Pairwise fun a b => a.1 ≤ b.1 := by
    have htrans (a b c : Nat × Nat) (hab : decide (a.1 ≤ b.1) = true)
        (hbc : decide (b.1 ≤ c.1) = true) : decide (a.1 ≤ c.1) = true :=
      decide_eq_true (Nat.le_trans (of_decide_eq_true hab) (of_decide_eq_true hbc))
    have htotal (a b : Nat × Nat) : (decide (a.1 ≤ b.1) || decide (b.1 ≤ a.1)) = true := by
      simpa using Nat.le_total a.1 b.1
    exact (List.pairwise_mergeSort htrans htotal ranges).imp of_decide_eq_true
  obtain ⟨hascending, hwithin⟩ := foldr_join_spec hsorted
    (fun r h => hr r (List.mem_mergeSort.mp h)) fun r _ => Nat.zero_le r.1
  refine ⟨hascending, fun n => (hwithin n).trans ?_⟩
  simp only [Within, List.mem_mergeSort]

private theorem within_gaps (h : Ascending start ranges) (hn : n ≤ lastCode) :
    Within (gaps start ranges) n ↔ start ≤ n ∧ ¬ Within ranges n := by
  induction ranges generalizing start with
  | nil =>
    rw [gaps]
    split_ifs <;> simp [Within] <;> omega
  | cons r rest ih =>
    obtain ⟨hstart, hr, hrest⟩ := h
    have hbehind := fun hn => hrest.le_of_within (n := n) hn
    rw [gaps]
    split_ifs with hgap
    · rw [within_cons, within_cons, ih hrest]
      by_cases hw : Within rest n
      · have := hbehind hw
        simp [hw]
        omega
      · simp only [hw, not_false_eq_true, and_true, or_false]
        omega
    · rw [within_cons, ih hrest]
      by_cases hw : Within rest n
      · simp [hw]
      · simp only [hw, not_false_eq_true, and_true, or_false]
        omega

end Ranges

section Characters

variable {s t : CharSet} {c d : Char}

private theorem contains_iff_within : s.contains c = true ↔ Within s.ranges c.toNat := by
  simp only [contains, Within, List.any_eq_true, Bool.and_eq_true, decide_eq_true_eq]

theorem contains_single_iff : (single c).contains d = true ↔ d = c := by
  rw [contains_iff_within, ← Char.toNat_inj]
  simp only [Within, single, List.mem_singleton, exists_eq_left]
  omega

private theorem toNat_le_lastCode (c : Char) : c.toNat ≤ lastCode := by
  have hvalid : c.toNat.isValidChar := c.valid
  unfold Nat.isValidChar at hvalid
  unfold lastCode
  omega

/-- The union of sets without empty ranges. -/
theorem contains_union_iff (hs : ∀ r ∈ s.ranges, r.1 ≤ r.2) (ht : ∀ r ∈ t.ranges, r.1 ≤ r.2) :
    (s.union t).contains c = true ↔ s.contains c = true ∨ t.contains c = true := by
  simp only [contains_iff_within, union]
  rw [(ofRanges_spec (List.forall_mem_append.mpr ⟨hs, ht⟩)).2]
  simp only [Within, List.mem_append, or_and_right, exists_or]

theorem ascending_union (hs : ∀ r ∈ s.ranges, r.1 ≤ r.2) (ht : ∀ r ∈ t.ranges, r.1 ≤ r.2) :
    Ascending 0 (s.union t).ranges :=
  (ofRanges_spec (List.forall_mem_append.mpr ⟨hs, ht⟩)).1

theorem contains_complement_iff (h : Ascending 0 s.ranges) :
    s.complement.contains c = true ↔ ¬ s.contains c = true := by
  rw [contains_iff_within, contains_iff_within, complement, within_gaps h (toNat_le_lastCode c)]
  simp

end Characters
end TableAudit.CharSet
