import Mathlib.Data.List.Induction
import TableAudit.Proofs.Schema.Names

/-! Schemas that are made by putting in one column after the other. -/
namespace TableAudit
namespace Schema
variable {s : Schema} {c d : ColumnSpec} {cs : List ColumnSpec} {n : String}

private theorem putColumn_cases (c : ColumnSpec) (cs : List ColumnSpec) :
    (∃ i, (cs.map (·.name))[i]? = some c.name ∧ c.name ∉ (cs.map (·.name)).take i ∧
      putColumn c cs = cs.set i c) ∨
    c.name ∉ cs.map (·.name) ∧ putColumn c cs = cs ++ [c] := by
  induction cs with
  | nil => exact .inr ⟨List.not_mem_nil, rfl⟩
  | cons d ds ih =>
    rw [putColumn]
    split_ifs with hname
    · exact .inl ⟨0, congrArg some hname, List.not_mem_nil, rfl⟩
    have hne : c.name ≠ d.name := Ne.symm hname
    rcases ih with ⟨i, hi, hbefore, hput⟩ | ⟨hnew, hput⟩
    · exact .inl ⟨i + 1, hi, List.not_mem_cons_of_ne_of_not_mem hne hbefore, by rw [hput]; rfl⟩
    · exact .inr ⟨List.not_mem_cons_of_ne_of_not_mem hne hnew, by rw [hput]; rfl⟩

private theorem insert_cases (s : Schema) (c : ColumnSpec) :
    (∃ i, s.names[i]? = some c.name ∧ c.name ∉ s.names.take i ∧
      s.insert c = { s with columns := s.columns.set i c }) ∨
    c.name ∉ s.names ∧ s.insert c = { s with columns := s.columns ++ [c] } := by
  rcases putColumn_cases c s.columns with ⟨i, hi, hbefore, hput⟩ | ⟨hnew, hput⟩
  · exact .inl ⟨i, hi, hbefore, by rw [insert, hput]⟩
  · exact .inr ⟨hnew, by rw [insert, hput]⟩

private theorem names_insert (s : Schema) (c : ColumnSpec) :
    (s.insert c).names = if c.name ∈ s.names then s.names else s.names ++ [c.name] := by
  rcases s.insert_cases c with ⟨i, hi, -, hput⟩ | ⟨hnew, hput⟩
  · rw [if_pos (List.mem_of_getElem? hi), hput]
    obtain ⟨hlt, hname⟩ := List.getElem?_eq_some_iff.mp hi
    change (s.columns.set i c).map (·.name) = s.names
    rw [List.map_set]
    change s.names.set i c.name = s.names
    rw [← hname, List.set_getElem_self]
  · rw [if_neg hnew, hput]
    exact List.map_append

private theorem get?_insert (s : Schema) (c : ColumnSpec) (n : String) :
    (s.insert c).get? n = if c.name = n then some c else s.get? n := by
  simp only [get?, insert]
  induction s.columns with
  | nil => simp [putColumn, List.find?_singleton]
  | cons d ds ih =>
    rw [putColumn]
    by_cases hname : d.name = c.name
    · rw [if_pos hname, List.find?_cons, List.find?_cons, hname]
      by_cases hn : c.name = n <;> simp [hn]
    · rw [if_neg hname, List.find?_cons, List.find?_cons, ih]
      by_cases hd : d.name = n
      · simp [hd, hd ▸ Ne.symm hname]
      · simp [hd]

private theorem nodup_names_insert (h : s.names.Nodup) (c : ColumnSpec) :
    (s.insert c).names.Nodup := by
  rw [names_insert]
  split_ifs with hmem
  · exact h
  · exact (List.perm_append_singleton _ _).nodup_iff.mpr (List.nodup_cons.mpr ⟨hmem, h⟩)

def ofInsertions (cs : List ColumnSpec) : Schema := cs.foldl insert empty

private theorem ofInsertions_concat (cs : List ColumnSpec) (c : ColumnSpec) :
    ofInsertions (cs ++ [c]) = (ofInsertions cs).insert c := by
  rw [ofInsertions, List.foldl_append]
  rfl

private theorem eraseDups_concat (names : List String) (n : String) :
    (names ++ [n]).eraseDups =
      if n ∈ names then names.eraseDups else names.eraseDups ++ [n] := by
  rw [List.eraseDups_append]
  by_cases hmem : n ∈ names
  · have hnone : [n].removeAll names = [] := by simp [List.removeAll, hmem]
    rw [if_pos hmem, hnone, List.eraseDups_nil, List.append_nil]
  · have hself : [n].removeAll names = [n] := by simp [List.removeAll, hmem]
    rw [if_neg hmem, hself]
    rfl

private theorem names_ofInsertions (cs : List ColumnSpec) :
    (ofInsertions cs).names = (cs.map (·.name)).eraseDups := by
  induction cs using List.reverseRecOn with
  | nil => rfl
  | append_singleton cs c ih =>
    rw [ofInsertions_concat, names_insert, ih, List.map_append, List.map_singleton, eraseDups_concat]
    simp only [List.mem_eraseDups]

private theorem nodup_names_ofInsertions (cs : List ColumnSpec) :
    (ofInsertions cs).names.Nodup := by
  induction cs using List.reverseRecOn with
  | nil => exact List.nodup_nil
  | append_singleton cs c ih =>
    rw [ofInsertions_concat]
    exact nodup_names_insert ih c

private theorem get?_ofInsertions (cs : List ColumnSpec) (n : String) :
    (ofInsertions cs).get? n = cs.reverse.find? fun c => c.name = n := by
  induction cs using List.reverseRecOn with
  | nil => rfl
  | append_singleton cs c ih =>
    rw [ofInsertions_concat, get?_insert, ih, List.reverse_append, List.reverse_singleton,
      List.singleton_append, List.find?_cons]
    by_cases hn : c.name = n <;> simp [hn]

private theorem get?_ofInsertions_eq_some_iff {cs : List ColumnSpec} {n : String} {c : ColumnSpec} :
    (ofInsertions cs).get? n = some c ↔
      ∃ before after, cs = before ++ c :: after ∧ c.name = n ∧ ∀ d ∈ after, d.name ≠ n := by
  rw [get?_ofInsertions, List.find?_eq_some_iff_append]
  simp only [decide_eq_true_eq, Bool.not_eq_true', decide_eq_false_iff_not]
  constructor
  · rintro ⟨hname, as, bs, hsplit, hafter⟩
    refine ⟨bs.reverse, as.reverse, ?_, hname, fun d hd => hafter d (List.mem_reverse.mp hd)⟩
    simpa using congrArg List.reverse hsplit
  · rintro ⟨before, after, rfl, hname, hafter⟩
    exact ⟨hname, after.reverse, before.reverse, by simp, fun d hd => hafter d (List.mem_reverse.mp hd)⟩

private theorem get?_ofInsertions_eq_none_iff {cs : List ColumnSpec} {n : String} :
    (ofInsertions cs).get? n = none ↔ ∀ c ∈ cs, c.name ≠ n := by
  simp [get?_ofInsertions]

private theorem checkNames_ofInsertions_eq_ok_iff {cs : List ColumnSpec} :
    (ofInsertions cs).checkNames = .ok () ↔ ∀ c ∈ cs, c.name ≠ "" := by
  rw [checkNames_eq_ok_iff, names_ofInsertions, List.mem_eraseDups, ← names_ofInsertions]
  simp [nodup_names_ofInsertions cs]

/-- What a schema keeps of columns that are put in one after the other. -/
structure Keeps (s : Schema) (cs : List ColumnSpec) : Prop where
  locale : s.locale = none
  names : s.names = (cs.map (·.name)).eraseDups
  length : s.columns.length = (cs.map (·.name)).eraseDups.length
  get?_eq_some : ∀ n c, s.get? n = some c ↔
    ∃ before after, cs = before ++ c :: after ∧ c.name = n ∧ ∀ d ∈ after, d.name ≠ n
  get?_eq_none : ∀ n, s.get? n = none ↔ ∀ c ∈ cs, c.name ≠ n
  checkNames : s.checkNames = .ok () ↔ ∀ c ∈ cs, c.name ≠ ""
  not_repeated : ∀ n, s.checkNames ≠ .error (.repeatedName n)

private theorem locale_ofInsertions (cs : List ColumnSpec) : (ofInsertions cs).locale = none := by
  induction cs using List.reverseRecOn with
  | nil => rfl
  | append_singleton cs c ih => rw [ofInsertions_concat, insert, ih]

/-- Columns that are put in one after the other make a schema with their names in the order in which
they first came and for each name its last column; its names are in order unless one is empty. In
any schema, also one with a name that comes twice, a column takes the place of the first of its name
or comes behind all, and nothing else changes. -/
theorem keeps_ofInsertions :
    (∀ cs, (ofInsertions cs).Keeps cs) ∧
    ∀ (s : Schema) (c : ColumnSpec),
      (∃ i, s.names[i]? = some c.name ∧ c.name ∉ s.names.take i ∧
        s.insert c = { s with columns := s.columns.set i c }) ∨
      c.name ∉ s.names ∧ s.insert c = { s with columns := s.columns ++ [c] } := by
  refine ⟨fun cs => ?_, insert_cases⟩
  exact {
    locale := locale_ofInsertions cs
    names := names_ofInsertions cs
    length := by rw [← names_ofInsertions, names, List.length_map]
    get?_eq_some := fun _ _ => get?_ofInsertions_eq_some_iff
    get?_eq_none := fun _ => get?_ofInsertions_eq_none_iff
    checkNames := checkNames_ofInsertions_eq_ok_iff
    not_repeated := fun _ h => not_nodup_of_checkNames h (nodup_names_ofInsertions cs) }

end Schema
end TableAudit
