import TableAudit.Text.Blank
import TableAudit.Text.Lower

/-! Texts with their lowercase in ASCII. The Kelvin sign has `k` as its lowercase, so this letter is
left out. -/
namespace TableAudit.Text

def Ascii (cs : List Char) : Prop := ∀ c ∈ cs, c.toNat < 128

/-- The same texts but for the case of ASCII letters. -/
def SameLetters (cs ds : List Char) : Prop := cs.map Char.toLower = ds.map Char.toLower

instance (cs ds : List Char) : Decidable (SameLetters cs ds) :=
  inferInstanceAs (Decidable (cs.map Char.toLower = ds.map Char.toLower))

private theorem toLower_cases (c : Char) :
    (65 ≤ c.toNat ∧ c.toNat ≤ 90) ∧ c.toLower.toNat = c.toNat + 32 ∨
      ¬ (65 ≤ c.toNat ∧ c.toNat ≤ 90) ∧ c.toLower = c := by
  have hcapital : c.val ≥ 'A'.val ∧ c.val ≤ 'Z'.val ↔ 65 ≤ c.toNat ∧ c.toNat ≤ 90 :=
    and_congr UInt32.le_iff_toNat_le UInt32.le_iff_toNat_le
  unfold Char.toLower
  rw [← hcapital]
  split
  · next h =>
    refine .inl ⟨h, ?_⟩
    show (c.val + 32).toNat = c.val.toNat + 32
    have hlast : c.val.toNat ≤ 90 := (hcapital.mp h).2
    rw [UInt32.toNat_add]
    exact Nat.mod_eq_of_lt (by show _ + 32 < _; omega)
  · next h => exact .inr ⟨h, rfl⟩

theorem toLower_lt_iff {c : Char} : c.toLower.toNat < 128 ↔ c.toNat < 128 := by
  rcases toLower_cases c with ⟨_, h⟩ | ⟨_, h⟩
  · omega
  · rw [h]

theorem isBlank_toLower (c : Char) : isBlank c.toLower = isBlank c := by
  rcases toLower_cases c with ⟨_, h⟩ | ⟨_, h⟩
  · rw [Bool.eq_iff_iff]
    simp only [isBlank, h, Bool.or_eq_true, Bool.and_eq_true, decide_eq_true_eq]
    omega
  · rw [h]

/-- What holds of characters in either case holds of all of a text if it does of the other. -/
theorem SameLetters.forall_mem {cs ds : List Char} (h : SameLetters cs ds) {P : Char → Prop}
    (hP : ∀ c : Char, P c.toLower ↔ P c) (hds : ∀ d ∈ ds, P d) : ∀ c ∈ cs, P c := by
  intro c hc
  have hmem : c.toLower ∈ ds.map Char.toLower := h ▸ List.mem_map_of_mem hc
  obtain ⟨d, hd, heq⟩ := List.mem_map.mp hmem
  rw [← hP, ← heq, hP]
  exact hds d hd

section Lower

variable {before after cs w : List Char} {c : Char}

private theorem caseRuns_cases : ∀ r ∈ caseRuns,
    r.first = 65 ∧ r.last = 90 ∧ r.shift = 32 ∨
    r.first = 0x212A ∧ r.last = 0x212A ∧ r.shift = -8383 ∨
    128 ≤ r.first ∧ 128 ≤ r.first + r.shift ∧ (r.last + r.shift < 0xD800 ∨
      0xDFFF < r.first + r.shift ∧ r.last + r.shift < 0x110000) := by
  -- the ASCII capitals, the Kelvin sign, and runs that lie beyond ASCII as their partners do
  decide +kernel

private theorem lowerChar_cases (c : Char) :
    (∃ r ∈ caseRuns, (r.first ≤ c.toNat ∧ c.toNat ≤ r.last) ∧
      lowerChar c = Char.ofNat (c.toNat + r.shift).toNat) ∨
    ¬ (65 ≤ c.toNat ∧ c.toNat ≤ 90) ∧ lowerChar c = c := by
  unfold lowerChar
  split
  · next r hr =>
    have hrange := List.find?_some hr
    simp only [Bool.and_eq_true, decide_eq_true_eq] at hrange
    exact .inl ⟨r, List.mem_of_find?_eq_some hr, hrange.1, rfl⟩
  · next hnone =>
    have hcapitals : (⟨0x41, 0x5A, 1, 32⟩ : CaseRun) ∈ caseRuns := .head _
    refine .inr ⟨?_, rfl⟩
    simpa [Nat.mod_one] using List.find?_eq_none.mp hnone _ hcapitals

private theorem lowerChar_of_lt (h : c.toNat < 128) : lowerChar c = c.toLower := by
  rcases lowerChar_cases c with ⟨r, hr, hrange, heq⟩ | ⟨hout, heq⟩
  · have hcapital : (65 ≤ c.toNat ∧ c.toNat ≤ 90) ∧ r.shift = 32 := by
      rcases caseRuns_cases r hr with hrun | hrun | hrun <;> omega
    obtain ⟨-, hlower⟩ | ⟨hout, -⟩ := toLower_cases c
    · rw [heq, hcapital.2, ← Char.ofNat_toNat c.toLower, hlower]
      rfl
    · exact absurd hcapital.1 hout
  · obtain ⟨hin, -⟩ | ⟨-, hlower⟩ := toLower_cases c
    · exact absurd hin hout
    · rw [heq, hlower]

private theorem lowerChar_of_le (h : 128 ≤ c.toNat) :
    128 ≤ (lowerChar c).toNat ∨ lowerChar c = 'k' := by
  rcases lowerChar_cases c with ⟨r, hr, hrange, heq⟩ | ⟨-, heq⟩
  · rw [heq]
    rcases caseRuns_cases r hr with hcapitals | ⟨hfirst, hlast, hshift⟩ | hrun
    · omega
    · have hkelvin : c.toNat = 0x212A := by omega
      rw [hkelvin, hshift]
      exact .inr rfl
    · have hvalid : (c.toNat + r.shift).toNat.isValidChar := by
        unfold Nat.isValidChar
        omega
      rw [Char.ofNat, dif_pos hvalid]
      left
      show 128 ≤ (c.toNat + r.shift).toNat
      omega
  · rw [heq]
    exact .inl h

private theorem lowerIn_of_lt (h : c.toNat < 128) : lowerIn before c after = [c.toLower] := by
  have hsigma : c ≠ 'Σ' := by
    rintro rfl
    exact absurd h (by decide)
  have hdotted : c ≠ 'İ' := by
    rintro rfl
    exact absurd h (by decide)
  rw [lowerIn, if_neg hsigma, if_neg hdotted, lowerChar_of_lt h]

private theorem exists_mem_lowerIn (h : 128 ≤ c.toNat) :
    ∃ d ∈ lowerIn before c after, 128 ≤ d.toNat ∨ d = 'k' := by
  unfold lowerIn
  split
  · split
    · exact ⟨'ς', List.mem_singleton_self _, .inl (by decide)⟩
    · exact ⟨'σ', List.mem_singleton_self _, .inl (by decide)⟩
  · split
    · exact ⟨'\u0307', by simp, .inl (by decide)⟩
    · exact ⟨_, List.mem_singleton_self _, lowerChar_of_le h⟩

private theorem lowerFrom_of_ascii (h : Ascii cs) : lowerFrom before cs = cs.map Char.toLower := by
  -- only a sigma looks at what stands before it, so that may be any text
  induction cs generalizing before with
  | nil => rfl
  | cons c cs ih =>
    obtain ⟨hc, hcs⟩ := List.forall_mem_cons.mp h
    rw [lowerFrom, lowerIn_of_lt hc, ih hcs]
    rfl

private theorem ascii_of_lowerFrom (h : ∀ d ∈ lowerFrom before cs, d.toNat < 128 ∧ d ≠ 'k') :
    Ascii cs := by
  induction cs generalizing before with
  | nil => exact List.forall_mem_nil _
  | cons c cs ih =>
    rw [lowerFrom, List.forall_mem_append] at h
    refine List.forall_mem_cons.mpr ⟨Nat.lt_of_not_le fun hc => ?_, ih h.2⟩
    obtain ⟨d, hd, hlarge | rfl⟩ := exists_mem_lowerIn hc
    · exact absurd (h.1 d hd).1 (Nat.not_lt_of_le hlarge)
    · exact (h.1 'k' hd).2 rfl

/-- No other text has its lowercase in ASCII without the letter `k`. -/
theorem lower_eq_iff (hw : ∀ d ∈ w, d.toNat < 128 ∧ d ≠ 'k') :
    lower cs = w ↔ cs.map Char.toLower = w := by
  have hlower (h : Ascii cs) : lower cs = cs.map Char.toLower := lowerFrom_of_ascii h
  constructor
  · intro h
    rw [← hlower (ascii_of_lowerFrom (h ▸ hw)), h]
  · intro h
    rw [hlower, h]
    intro c hc
    rw [← toLower_lt_iff]
    exact (hw _ (h ▸ List.mem_map_of_mem hc)).1

/-- The letter `k` is also that of the Kelvin sign. -/
example : lower ['\u212a'] = ['k'] ∧ ['\u212a'].map Char.toLower = ['\u212a'] := by decide +kernel

end Lower
end TableAudit.Text
