import TableAudit.Text.Quoted

/-! A quoted text ends at its closing quote, whatever comes behind it. -/
namespace TableAudit

/-- Two beginnings of one list are the same if all their members are of a kind that what follows them
does not start with. -/
theorem append_inj_of_forall {α : Type} {P : α → Prop} {xs ys as bs : List α}
    (hx : ∀ x ∈ xs, P x) (hy : ∀ y ∈ ys, P y) (ha : ∀ a ∈ as.head?, ¬ P a)
    (hb : ∀ b ∈ bs.head?, ¬ P b) (h : xs ++ as = ys ++ bs) : xs = ys ∧ as = bs := by
  induction xs generalizing ys with
  | nil =>
    cases ys with
    | nil => exact ⟨rfl, h⟩
    | cons y ys =>
      rw [List.nil_append] at h
      exact absurd (hy y List.mem_cons_self) (ha y (by rw [h]; rfl))
  | cons x xs ih =>
    cases ys with
    | nil =>
      rw [List.nil_append] at h
      exact absurd (hx x List.mem_cons_self) (hb x (by rw [← h]; rfl))
    | cons y ys =>
      obtain ⟨rfl, htail⟩ := List.cons.inj h
      rw [List.forall_mem_cons] at hx hy
      obtain ⟨rfl, hrest⟩ := ih hx.2 hy.2 htail
      exact ⟨rfl, hrest⟩

namespace Text

private theorem digitChar_inj : ∀ i < 16, ∀ j < 16, Nat.digitChar i = Nat.digitChar j → i = j := by
  decide

theorem toDigits_inj {n m : Nat} (h : Nat.toDigits 16 n = Nat.toDigits 16 m) : n = m := by
  induction n using Nat.strongRecOn generalizing m with
  | ind n ih =>
    rw [Nat.toDigits_eq_if (by decide), Nat.toDigits_eq_if (n := m) (by decide)] at h
    split at h <;> split at h
    · rename_i hn hm
      exact digitChar_inj n hn m hm (List.cons.inj h).1
    · cases List.append_eq_singleton_iff.mp h.symm with
      | inl h => exact absurd h.1 Nat.toDigits_ne_nil
      | inr h => exact absurd h.2 (List.cons_ne_nil _ _)
    · cases List.append_eq_singleton_iff.mp h with
      | inl h => exact absurd h.1 Nat.toDigits_ne_nil
      | inr h => exact absurd h.2 (List.cons_ne_nil _ _)
    · rename_i hn hm
      obtain ⟨hdiv, hmod⟩ := List.append_inj' h rfl
      have hdiv := ih (n / 16) (by omega) hdiv
      have hmod := digitChar_inj _ (Nat.mod_lt n (by decide)) _ (Nat.mod_lt m (by decide))
        (List.cons.inj hmod).1
      omega

private theorem isAlphanum_digitChar : ∀ i < 16, (Nat.digitChar i).isAlphanum = true := by decide

theorem isAlphanum_of_mem_toDigits (n : Nat) :
    ∀ c ∈ Nat.toDigits 16 n, c.isAlphanum = true := by
  induction n using Nat.strongRecOn with
  | ind n ih =>
    rw [Nat.toDigits_eq_if (by decide)]
    split
    · rename_i hn
      simpa using isAlphanum_digitChar n hn
    · intro c hc
      rcases List.mem_append.mp hc with hc | hc
      · exact ih (n / 16) (by omega) c hc
      · rw [List.mem_singleton.mp hc]
        exact isAlphanum_digitChar _ (Nat.mod_lt n (by decide))

private def shortEscapes : List (Char × Char) :=
  [('"', '"'), ('\\', '\\'), ('\n', 'n'), ('\r', 'r'), ('\t', 't'), ('\x00', '0')]

private theorem escaped_cases (c : Char) :
    (escaped c = [c] ∧ c ≠ '"' ∧ c ≠ '\\' ∧ c ≠ '\x00') ∨
    (∃ x, (c, x) ∈ shortEscapes ∧ escaped c = ['\\', x]) ∨
    escaped c = '\\' :: 'u' :: '\x7b' :: (Nat.toDigits 16 c.toNat ++ ['\x7d']) := by
  unfold escaped
  split
  all_goals first | exact .inr (.inl ⟨_, by decide, rfl⟩) | skip
  rename_i h1 h2 _ _ _ h6
  split
  · exact .inr (.inr rfl)
  · exact .inl ⟨rfl, h1, h2, h6⟩

private theorem shortEscapes_inj :
    ∀ p ∈ shortEscapes, ∀ q ∈ shortEscapes, p.2 = q.2 → p = q := by decide

private theorem ne_u_of_shortEscapes : ∀ p ∈ shortEscapes, p.2 ≠ 'u' := by decide

private theorem nul_not_mem_shortEscapes : ∀ p ∈ shortEscapes, '\x00' ∉ ['\\', p.2] := by decide

private theorem escaped_append_inj {c d : Char} {as bs : List Char}
    (h : escaped c ++ as = escaped d ++ bs) : c = d ∧ as = bs := by
  rcases escaped_cases c with ⟨hc, _, hback, _⟩ | ⟨x, hx, hc⟩ | hc <;>
    rcases escaped_cases d with ⟨hd, _, hback', _⟩ | ⟨y, hy, hd⟩ | hd <;>
    rw [hc, hd] at h
  · simpa using h
  · exact absurd (List.cons.inj h).1 hback
  · exact absurd (List.cons.inj h).1 hback
  · exact absurd (List.cons.inj h).1.symm hback'
  · obtain ⟨rfl, hrest⟩ := List.cons.inj (List.cons.inj h).2
    exact ⟨congrArg Prod.fst (shortEscapes_inj _ hx _ hy rfl), hrest⟩
  · exact absurd (List.cons.inj (List.cons.inj h).2).1 (ne_u_of_shortEscapes _ hx)
  · exact absurd (List.cons.inj h).1.symm hback'
  · exact absurd (List.cons.inj (List.cons.inj h).2).1.symm (ne_u_of_shortEscapes _ hy)
  · simp only [List.cons_append, List.cons.injEq, true_and, List.append_assoc] at h
    obtain ⟨hdigits, h⟩ := append_inj_of_forall (P := fun c => c.isAlphanum = true)
      (isAlphanum_of_mem_toDigits _) (isAlphanum_of_mem_toDigits _) (by simp) (by simp) h
    exact ⟨Char.toNat_inj.mp (toDigits_inj hdigits), (List.cons.inj h).2⟩

private theorem escaped_eq_cons (c : Char) : ∃ x rest, escaped c = x :: rest ∧ x ≠ '"' := by
  rcases escaped_cases c with ⟨hc, hq, _⟩ | ⟨_, _, hc⟩ | hc
  · exact ⟨c, [], hc, hq⟩
  · exact ⟨_, _, hc, by decide⟩
  · exact ⟨_, _, hc, by decide⟩

private theorem flatMap_escaped_append_inj {cs ds as bs : List Char}
    (h : cs.flatMap escaped ++ '"' :: as = ds.flatMap escaped ++ '"' :: bs) :
    cs = ds ∧ as = bs := by
  induction cs generalizing ds with
  | nil =>
    cases ds with
    | nil => exact ⟨rfl, (List.cons.inj h).2⟩
    | cons d ds =>
      obtain ⟨x, rest, hd, hx⟩ := escaped_eq_cons d
      rw [List.flatMap_cons, hd] at h
      exact absurd (List.cons.inj h).1.symm hx
  | cons c cs ih =>
    cases ds with
    | nil =>
      obtain ⟨x, rest, hc, hx⟩ := escaped_eq_cons c
      rw [List.flatMap_cons, hc] at h
      exact absurd (List.cons.inj h).1 hx
    | cons d ds =>
      rw [List.flatMap_cons, List.flatMap_cons, List.append_assoc, List.append_assoc] at h
      obtain ⟨rfl, htail⟩ := escaped_append_inj h
      obtain ⟨rfl, hrest⟩ := ih htail
      exact ⟨rfl, hrest⟩

/-- A quoted text ends at its closing quote. -/
theorem quoted_append_inj {s t : String} {as bs : List Char}
    (h : quoted s ++ as = quoted t ++ bs) : s = t ∧ as = bs := by
  simp only [quoted, List.cons_append, List.append_assoc, List.cons.injEq, true_and,
    List.nil_append] at h
  obtain ⟨hs, h⟩ := flatMap_escaped_append_inj h
  exact ⟨String.toList_inj.mp hs, h⟩

private theorem quotedList_cons (s : String) (ss : List String) :
    quotedList (s :: ss) =
      '[' :: (quoted s ++ (ss.flatMap (fun s => ',' :: ' ' :: quoted s) ++ [']'])) := by
  have h : [',', ' '].intercalate ((s :: ss).map quoted) =
      quoted s ++ ss.flatMap fun s => ',' :: ' ' :: quoted s := by
    induction ss generalizing s with
    | nil => simp
    | cons t ts ih =>
      rw [List.map_cons, List.map_cons, List.intercalate_cons_cons, ← List.map_cons, ih]
      simp
  rw [quotedList, h, List.cons_append, List.append_assoc]

private theorem quotedTail_inj {ss ts : List String}
    (h : ss.flatMap (fun s => ',' :: ' ' :: quoted s) ++ [']'] =
      ts.flatMap (fun s => ',' :: ' ' :: quoted s) ++ [']']) : ss = ts := by
  induction ss generalizing ts with
  | nil =>
    cases ts with
    | nil => rfl
    | cons t ts => exact absurd (List.cons.inj h).1 (by decide)
  | cons s ss ih =>
    cases ts with
    | nil => exact absurd (List.cons.inj h).1 (by decide)
    | cons t ts =>
      simp only [List.flatMap_cons, List.cons_append, List.append_assoc, List.cons.injEq,
        true_and] at h
      obtain ⟨rfl, htail⟩ := quoted_append_inj h
      rw [ih htail]

theorem quotedList_inj {ss ts : List String} (h : quotedList ss = quotedList ts) : ss = ts := by
  cases ss with
  | nil =>
    cases ts with
    | nil => rfl
    | cons t ts =>
      rw [quotedList_cons] at h
      exact absurd (List.cons.inj (List.cons.inj h).2).1 (by decide)
  | cons s ss =>
    cases ts with
    | nil =>
      rw [quotedList_cons] at h
      exact absurd (List.cons.inj (List.cons.inj h).2).1 (by decide)
    | cons t ts =>
      rw [quotedList_cons, quotedList_cons] at h
      obtain ⟨rfl, htail⟩ := quoted_append_inj (List.cons.inj h).2
      rw [quotedTail_inj htail]

theorem nul_not_mem_quoted (s : String) : '\x00' ∉ quoted s := by
  have hescaped (c : Char) : '\x00' ∉ escaped c := by
    rcases escaped_cases c with ⟨hc, _, _, h0⟩ | ⟨x, hx, hc⟩ | hc
    · simpa [hc] using h0.symm
    · rw [hc]
      exact nul_not_mem_shortEscapes (c, x) hx
    · have hdigits : '\x00' ∉ Nat.toDigits 16 c.toNat := fun h0 =>
        absurd (isAlphanum_of_mem_toDigits _ _ h0) (by decide)
      simp [hc, hdigits]
  simp [quoted, hescaped]

theorem nul_not_mem_quotedList (ss : List String) : '\x00' ∉ quotedList ss := by
  cases ss with
  | nil => decide
  | cons s ss => simp [quotedList_cons, nul_not_mem_quoted]

end Text
end TableAudit
