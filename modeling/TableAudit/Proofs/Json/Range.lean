import TableAudit.Json.Reader
import TableAudit.Proofs.Binary64.Quotients

/-! Every number in the value of a text is finite; a literal that is out of range makes no
number. -/
namespace TableAudit.Json

namespace Number

private theorem gather_lt {c : Nat} (ds : List Char) (h : c < Nat.pow 2 64) :
    (gather c ds).1 < Nat.pow 2 64 := by
  induction ds generalizing c with
  | nil => exact h
  | cons d ds ih =>
    rw [gather]
    split
    · next hnext => exact ih hnext
    · exact h

private theorem code_divideByTens_le {x : Binary64} (hx : x.code ≤ Binary64.infinityCode)
    (k : Nat) : (divideByTens x k).code ≤ x.code := by
  have hdiv {y : Binary64} (hy : y.code ≤ Binary64.infinityCode) (e : Nat) :
      (y.div (Binary64.powerOfTen e)).code ≤ y.code :=
    Binary64.code_div_le hy (Binary64.units_powerOfTen e)
  induction k using Nat.strong_induction_on generalizing x with
  | _ k ih =>
    rw [divideByTens]
    split
    · exact hdiv hx k
    split
    · exact Nat.le_refl _
    · exact (ih (k - 308) (by omega) ((hdiv hx 308).trans hx)).trans (hdiv hx 308)

private theorem isFinite_of_scaled? {c : Nat} {e : Int} {x : Binary64} (hc : c < Nat.pow 2 64)
    (h : scaled? c e = some x) : x.isFinite = true := by
  have hwhole : (Binary64.ofNat c).isFinite = true :=
    Binary64.isFinite_ofRatio_one false (Nat.le_of_lt hc)
  rw [scaled?] at h
  split at h
  · split at h
    · exact (Option.filter_eq_some_iff.mp h).2
    · split at h
      · cases h
        exact hwhole
      · cases h
  · cases h
    rw [Binary64.isFinite_iff] at hwhole ⊢
    exact (code_divideByTens_le (Nat.le_of_lt hwhole) _).trans_lt hwhole

private theorem isFinite_of_float? {l : NumberLiteral} {x : Binary64} (h : float? l = some x) :
    x.isFinite = true := by
  have hc : (gather (gather 0 l.whole).1 (l.fraction.getD [])).1 < Nat.pow 2 64 :=
    gather_lt _ (gather_lt _ (by decide))
  rw [float?] at h
  dsimp only at h
  obtain ⟨y, hy, rfl⟩ := Option.map_eq_some_iff.mp h
  have hfinite : y.isFinite = true := by
    split at hy
    · exact isFinite_of_scaled? hc hy
    split at hy
    · exact isFinite_of_scaled? hc hy
    split at hy
    · cases hy
      rfl
    · cases hy
  split
  · rwa [Binary64.isFinite_iff, Binary64.code_neg, ← Binary64.isFinite_iff]
  · exact hfinite

private theorem isFinite_of_ofLiteral? {l : NumberLiteral} {n : Number}
    (h : ofLiteral? l = some n) : n.toBinary64.isFinite = true := by
  have hfloat {n : Number} (h : (float? l).map .float = some n) : n.toBinary64.isFinite = true := by
    obtain ⟨x, hx, rfl⟩ := Option.map_eq_some_iff.mp h
    exact isFinite_of_float? hx
  have hwhole {n : Int} (hn : n.natAbs ≤ Nat.pow 2 64) : (whole n).toBinary64.isFinite = true :=
    Binary64.isFinite_ofRatio_one _ hn
  rw [ofLiteral?] at h
  split at h
  · exact hfloat h
  split at h
  · split at h
    · next hn =>
      cases h
      refine hwhole ?_
      rw [Int.natAbs_neg, Int.natAbs_natCast]
      exact hn.2.trans (by decide)
    · exact hfloat h
  split at h
  · next hn =>
    cases h
    exact hwhole (Nat.le_of_lt hn)
  · exact hfloat h

end Number

def Token.InRange : Token → Prop
  | number (some n) => n.toBinary64.isFinite = true
  | _ => True

private theorem inRange_numberToken (scanned : Except Fault (NumberLiteral × List Char)) :
    (numberToken scanned).1.InRange := by
  cases scanned with
  | error f => trivial
  | ok found =>
    cases h : Number.ofLiteral? found.1 with
    | none => simp [numberToken, h, Token.InRange]
    | some n => simpa [numberToken, h, Token.InRange] using Number.isFinite_of_ofLiteral? h

private theorem inRange_scanToken (c : Char) (r : List Char) : (scanToken c r).1.InRange := by
  have hword {t : Token} (ht : t.InRange) (rest : Except Fault (List Char)) :
      (wordToken t rest).1.InRange := by
    cases rest with
    | error f => trivial
    | ok r => exact ht
  rw [scanToken.eq_def]
  split
  · split <;> trivial
  · exact hword (t := .null) trivial _
  · exact hword (t := .bool true) trivial _
  · exact hword (t := .bool false) trivial _
  · exact inRange_numberToken _
  · split
    · exact inRange_numberToken _
    · trivial

private theorem inRange_of_punctuation? {c : Char} {t : Token} (h : punctuation? c = some t) :
    t.InRange := by
  rw [punctuation?.eq_def] at h
  split at h <;> cases h <;> trivial

private theorem inRange_tokens (text : List Char) : ∀ t ∈ tokens text, t.InRange := by
  fun_induction tokens text with
  | case1 => simp
  | case2 c r _ ih => exact ih
  | case3 c r _ t ht ih => exact List.forall_mem_cons.mpr ⟨inRange_of_punctuation? ht, ih⟩
  | case4 c r _ _ t r' hscan _ ih =>
    refine List.forall_mem_cons.mpr ⟨?_, ih⟩
    have := inRange_scanToken c r
    rwa [hscan] at this
  | case5 c r _ _ t hscan =>
    have := inRange_scanToken c r
    rw [hscan] at this
    simpa using this

mutual

def Node.InRange : Node → Prop
  | .number (some n) => n.toBinary64.isFinite = true
  | .array items => items.InRange
  | .object members => members.InRange
  | _ => True

def Items.InRange : Items → Prop
  | .item x rest => x.InRange ∧ rest.InRange
  | _ => True

def Members.InRange : Members → Prop
  | .member _ x rest => x.InRange ∧ rest.InRange
  | _ => True

end

def Frame.InRange : Frame → Prop
  | items before => ∀ x ∈ before, x.InRange
  | member before _ => ∀ m ∈ before, m.2.InRange

def Place.InRange : Place → Prop
  | name before | colon before _ => ∀ m ∈ before, m.2.InRange
  | after x => x.InRange
  | value | firstItem | firstName => True

private theorem Items.InRange.after {rest : Items} (h : rest.InRange) {reversed : List Node}
    (hr : ∀ x ∈ reversed, x.InRange) : (rest.after reversed).InRange := by
  induction reversed generalizing rest with
  | nil => exact h
  | cons x reversed ih =>
    rw [List.forall_mem_cons] at hr
    have hitem : (Items.item x rest).InRange := ⟨hr.1, h⟩
    exact ih hitem hr.2

private theorem Members.InRange.after {rest : Members} (h : rest.InRange)
    {reversed : List (Option String × Node)} (hr : ∀ m ∈ reversed, m.2.InRange) :
    (rest.after reversed).InRange := by
  induction reversed generalizing rest with
  | nil => exact h
  | cons m reversed ih =>
    rw [List.forall_mem_cons] at hr
    have hmember : (Members.member m.1 m.2 rest).InRange := ⟨hr.1, h⟩
    exact ih hmember hr.2

section Assemble
variable {ts : List Token} {t : Token} {frames frames' : List Frame} {place place' : Place} {x : Node}

private theorem inRange_array (rest : Items) (hrest : rest.InRange) {before : List Node}
    (hx : x.InRange) (hbefore : ∀ y ∈ before, y.InRange) :
    (Node.array (Items.after (.item x rest) before)).InRange := by
  have hitem : (Items.item x rest).InRange := ⟨hx, hrest⟩
  exact hitem.after hbefore

private theorem inRange_object (rest : Members) (hrest : rest.InRange)
    {before : List (Option String × Node)} {name : Option String} (hx : x.InRange)
    (hbefore : ∀ m ∈ before, m.2.InRange) :
    (Node.object (Members.after (.member name x rest) before)).InRange := by
  have hmember : (Members.member name x rest).InRange := ⟨hx, hrest⟩
  exact hmember.after hbefore

private theorem inRange_abandon (hx : x.InRange) (hf : ∀ f ∈ frames, f.InRange) :
    (abandon x frames).InRange := by
  induction frames generalizing x with
  | nil => exact hx
  | cons f frames ih =>
    rw [List.forall_mem_cons] at hf
    cases f with
    | items => exact ih (inRange_array (.cut .malformed) trivial hx hf.1) hf.2
    | member => exact ih (inRange_object (.cut .malformed) trivial hx hf.1) hf.2

private theorem inRange_leave {found : Option Token} (hp : place.InRange)
    (hf : ∀ f ∈ frames, f.InRange) : (place.leave found frames).InRange := by
  cases place with
  | value | firstItem | firstName => exact inRange_abandon trivial hf
  | name before =>
    have hrest : (Members.badName found).InRange := trivial
    exact inRange_abandon (x := .object _) (hrest.after hp) hf
  | colon before s =>
    exact inRange_abandon (inRange_object (.cut .malformed) trivial trivial hp) hf
  | after x =>
    cases frames with
    | nil => exact hp
    | cons f frames =>
      rw [List.forall_mem_cons] at hf
      cases f with
      | items => exact inRange_abandon (inRange_array (.cut (misplaced found)) trivial hp hf.1) hf.2
      | member => exact inRange_abandon (inRange_object (.cut (misplaced found)) trivial hp hf.1) hf.2

private theorem inRange_of_scalar? (ht : t.InRange) (h : t.scalar? = some x) : x.InRange := by
  cases t with
  | number n =>
    cases h
    cases n with
    | none => trivial
    | some n => exact ht
  | null | bool | string =>
    cases h
    trivial
  | _ => cases h

private theorem inRange_opened (ht : t.InRange) (hf : ∀ f ∈ frames, f.InRange)
    (h : t.opened frames = some (place', frames')) :
    place'.InRange ∧ ∀ f ∈ frames', f.InRange := by
  rw [Token.opened.eq_def] at h
  split at h
  · cases h
    have hnone : (Frame.items []).InRange := by simp [Frame.InRange]
    exact ⟨trivial, List.forall_mem_cons.mpr ⟨hnone, hf⟩⟩
  · cases h
    exact ⟨trivial, hf⟩
  · obtain ⟨x, hx, he⟩ := Option.map_eq_some_iff.mp h
    cases he
    exact ⟨inRange_of_scalar? ht hx, hf⟩

private theorem inRange_advance (ht : t.InRange) (hp : place.InRange) (hf : ∀ f ∈ frames, f.InRange)
    (h : place.advance t frames = some (place', frames')) :
    place'.InRange ∧ ∀ f ∈ frames', f.InRange := by
  cases place with
  | value => exact inRange_opened ht hf h
  | firstItem =>
    rw [Place.advance.eq_def] at h
    dsimp only at h
    split at h
    · cases h
      exact ⟨trivial, (List.forall_mem_cons.mp hf).2⟩
    · exact inRange_opened ht hf h
  | firstName =>
    rw [Place.advance.eq_def] at h
    dsimp only at h
    split at h
    · cases h
      exact ⟨by simp [Place.InRange], hf⟩
    · cases h
      exact ⟨trivial, hf⟩
    · cases h
  | name before =>
    rw [Place.advance.eq_def] at h
    dsimp only at h
    split at h
    · cases h
      exact ⟨hp, hf⟩
    · cases h
  | colon before s =>
    rw [Place.advance.eq_def] at h
    dsimp only at h
    split at h
    · cases h
      exact ⟨trivial, List.forall_mem_cons.mpr ⟨hp, hf⟩⟩
    · cases h
  | after x =>
    rw [Place.advance.eq_def] at h
    dsimp only at h
    split at h
    · cases h
      obtain ⟨hbefore, hf⟩ := List.forall_mem_cons.mp hf
      have hitems : (Frame.items (x :: _)).InRange := List.forall_mem_cons.mpr ⟨hp, hbefore⟩
      exact ⟨trivial, List.forall_mem_cons.mpr ⟨hitems, hf⟩⟩
    · cases h
      obtain ⟨hbefore, hf⟩ := List.forall_mem_cons.mp hf
      exact ⟨inRange_array .done trivial hp hbefore, hf⟩
    · cases h
      obtain ⟨hbefore, hf⟩ := List.forall_mem_cons.mp hf
      exact ⟨List.forall_mem_cons.mpr ⟨hp, hbefore⟩, hf⟩
    · cases h
      obtain ⟨hbefore, hf⟩ := List.forall_mem_cons.mp hf
      exact ⟨inRange_object .done trivial hp hbefore, hf⟩
    · cases h

private theorem inRange_assemble (hts : ∀ t ∈ ts, t.InRange) (hp : place.InRange)
    (hf : ∀ f ∈ frames, f.InRange) : (assemble ts place frames).1.InRange := by
  fun_induction assemble ts place frames with
  | case1 ts x => exact hp
  | case2 place frames => exact inRange_leave hp hf
  | case3 t ts place frames _ place' frames' hadvance ih =>
    rw [List.forall_mem_cons] at hts
    obtain ⟨hp', hf'⟩ := inRange_advance hts.1 hp hf hadvance
    exact ih hts.2 hp' hf'
  | case4 t ts place frames => exact inRange_leave hp hf

/-- All numbers in the value of a text are finite. -/
theorem inRange_nodeOf (text : List Char) : (nodeOf text).1.InRange :=
  inRange_assemble (inRange_tokens text) trivial (by simp)

end Assemble

end TableAudit.Json
