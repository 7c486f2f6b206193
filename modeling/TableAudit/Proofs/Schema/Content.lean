import Mathlib.Data.List.Forall2
import TableAudit.Proofs.Text.Quoted
import TableAudit.Schema.Fingerprint

/-! What the content of a schema tells. Without null characters in names and locales it tells
columns and rules, but not an empty locale from none. -/
namespace TableAudit

theorem map_eq_map_iff_forall₂ {α β γ : Type} {f : α → γ} {g : β → γ} {as : List α} {bs : List β} :
    as.map f = bs.map g ↔ List.Forall₂ (fun a b => f a = g b) as bs := by
  rw [← List.forall₂_eq_eq_eq, List.forall₂_map_left_iff, List.forall₂_map_right_iff]

namespace Rule

/-- Rules with one signature: equal ones, and custom rules of one identity and message. -/
inductive Alike : Rule → Rule → Prop
  | refl (r : Rule) : Alike r r
  | custom {a b : CustomRule} : a.identity = b.identity → a.message = b.message →
      Alike (.custom a) (.custom b)

def payload : Rule → List Char
  | required | email | unique => []
  | min bound | max bound => '=' :: Decimal.digits bound.bits.toNat
  | minLength n | maxLength n => '=' :: Decimal.digits n.toNat
  | pattern text => '=' :: Text.quoted text
  | oneOf values => '=' :: Text.quotedList values
  | custom c => '@' :: (Nat.toDigits 16 c.identity ++ '=' :: Text.quoted c.message)

private theorem signature_eq (r : Rule) : r.signature = r.name.toList ++ r.payload := by
  unfold signature name payload
  cases r <;> simp

private theorem isAlpha_of_mem_name (r : Rule) : ∀ c ∈ r.name.toList, c.isAlpha = true := by
  rw [← List.all_eq_true]
  cases r <;> simp only [name] <;> decide

private theorem not_isAlpha_head_payload (r : Rule) :
    ∀ c ∈ r.payload.head?, ¬ c.isAlpha = true := by
  cases r <;> simp [payload]

/-- Rules of one kind with equal payloads: bounds of the same bits, the same length, the same pattern,
the same texts in the same order, or a predicate of the same identity with the same message. -/
def SamePayload : Rule → Rule → Prop
  | required, required | email, email | unique, unique => True
  | min a, min b | max a, max b => a.bits = b.bits
  | minLength n, minLength m | maxLength n, maxLength m => n = m
  | pattern text, pattern text' => text = text'
  | oneOf values, oneOf values' => values = values'
  | custom a, custom b => a.identity = b.identity ∧ a.message = b.message
  | _, _ => False

private theorem alike_iff_samePayload {r q : Rule} : r.Alike q ↔ r.SamePayload q := by
  constructor
  · rintro (_ | ⟨hid, hmessage⟩)
    · cases r <;> simp [SamePayload]
    · exact ⟨hid, hmessage⟩
  · intro h
    cases r <;> cases q
    case custom.custom => exact .custom h.1 h.2
    case min.min a b | max.max a b =>
      obtain ⟨_⟩ := a
      obtain ⟨_⟩ := b
      cases h
      exact .refl _
    -- all other payloads are compared as they are
    all_goals cases h
    all_goals exact .refl _

private theorem digits_inj {n m : Nat} (h : Decimal.digits n = Decimal.digits m) : n = m := by
  rw [← Decimal.value_digits n, h, Decimal.value_digits]

private theorem samePayload_of_payload {r q : Rule} (hn : r.name = q.name)
    (hp : r.payload = q.payload) : r.SamePayload q := by
  cases r <;> cases q
  all_goals first | (simp [name] at hn; done) | simp only [payload, List.cons.injEq, true_and] at hp
  case required.required | email.email | unique.unique => trivial
  case min.min | max.max | minLength.minLength | maxLength.maxLength =>
    exact UInt64.toNat_inj.mp (digits_inj hp)
  case pattern.pattern => exact (Text.quoted_append_inj (congrArg (· ++ []) hp)).1
  case oneOf.oneOf => exact Text.quotedList_inj hp
  case custom.custom a b =>
    obtain ⟨hid, htext⟩ := append_inj_of_forall (P := fun c => c.isAlphanum = true)
      (Text.isAlphanum_of_mem_toDigits a.identity) (Text.isAlphanum_of_mem_toDigits b.identity)
      (by simp) (by simp) hp
    obtain ⟨hmessage, _⟩ := Text.quoted_append_inj (congrArg (· ++ []) (List.cons.inj htext).2)
    exact ⟨Text.toDigits_inj hid, hmessage⟩

private theorem signature_eq_iff {r q : Rule} : r.signature = q.signature ↔ r.Alike q := by
  constructor
  · intro h
    rw [signature_eq, signature_eq] at h
    obtain ⟨hn, hp⟩ := append_inj_of_forall (P := fun c => c.isAlpha = true)
      r.isAlpha_of_mem_name q.isAlpha_of_mem_name r.not_isAlpha_head_payload
      q.not_isAlpha_head_payload h
    exact alike_iff_samePayload.mpr (samePayload_of_payload (String.toList_inj.mp hn) hp)
  · rintro (_ | ⟨hid, hmessage⟩)
    · rfl
    · simp [signature_eq, name, payload, hid, hmessage]

private theorem nul_not_mem_signature (r : Rule) : '\x00' ∉ r.signature := by
  have hdigits (n : Nat) : '\x00' ∉ Decimal.digits n := fun h0 =>
    absurd (Decimal.isDigit_of_mem_digits n _ h0) (by decide)
  have hhex (n : Nat) : '\x00' ∉ Nat.toDigits 16 n := fun h0 =>
    absurd (Text.isAlphanum_of_mem_toDigits n _ h0) (by decide)
  have hname : '\x00' ∉ r.name.toList := fun h0 => absurd (r.isAlpha_of_mem_name _ h0) (by decide)
  rw [signature_eq, List.mem_append, not_or]
  refine ⟨hname, ?_⟩
  cases r <;>
    simp [payload, hdigits, hhex, Text.nul_not_mem_quoted, Text.nul_not_mem_quotedList]

/-- Signatures of rules. Two rules have one signature exactly if they are of one kind with the same
payload, whatever texts they hold, and no signature has a null character. -/
theorem signature_eq_iff_samePayload (r q : Rule) :
    (r.signature = q.signature ↔ r.SamePayload q) ∧ '\x00' ∉ r.signature :=
  ⟨signature_eq_iff.trans alike_iff_samePayload, r.nul_not_mem_signature⟩

end Rule

structure ColumnSpec.Alike (c d : ColumnSpec) : Prop where
  name : c.name = d.name
  cellType : c.cellType = d.cellType
  locale : c.locale.getD "" = d.locale.getD ""
  rules : List.Forall₂ Rule.Alike c.rules d.rules

/-- Schemas with one content: aliases do not count, and no locale counts as the empty one. -/
structure Schema.Alike (s t : Schema) : Prop where
  locale : s.locale.getD "" = t.locale.getD ""
  columns : List.Forall₂ ColumnSpec.Alike s.columns t.columns

structure Schema.NulFree (s : Schema) : Prop where
  locale : '\x00' ∉ (s.locale.getD "").toList
  columns : ∀ c ∈ s.columns, '\x00' ∉ c.name.toList ∧ '\x00' ∉ (c.locale.getD "").toList

private def segment (heading : String) (body : List Char) : List Char :=
  heading.toList ++ ':' :: body

private theorem segment_inj {heading : String} {xs ys : List Char} :
    segment heading xs = segment heading ys ↔ xs = ys := by
  simp [segment]

namespace ColumnSpec

private def segments (c : ColumnSpec) : List (List Char) :=
  segment "column" c.name.toList :: segment "type" c.cellType.name.toList ::
    segment "locale" (c.locale.getD "").toList :: c.rules.map fun r => segment "rule" r.signature

private theorem content_eq (c : ColumnSpec) : c.content = c.segments.flatMap ('\x00' :: ·) := by
  simp [content, segments, part, segment, List.flatMap_map]

private theorem nul_not_mem_segments {c : ColumnSpec} (hn : '\x00' ∉ c.name.toList)
    (hl : '\x00' ∉ (c.locale.getD "").toList) : ∀ x ∈ c.segments, '\x00' ∉ x := by
  have ht : '\x00' ∉ c.cellType.name.toList := by cases c.cellType <;> decide
  simp [segments, segment, hn, hl, ht, Rule.nul_not_mem_signature]

end ColumnSpec

private theorem head_flatMap_nul (xs : List (List Char)) :
    ∀ c ∈ (xs.flatMap ('\x00' :: ·)).head?, ¬ c ≠ '\x00' := by
  cases xs <;> simp

private theorem flatMap_nul_inj {xs ys : List (List Char)} (hx : ∀ x ∈ xs, '\x00' ∉ x)
    (hy : ∀ y ∈ ys, '\x00' ∉ y) (h : xs.flatMap ('\x00' :: ·) = ys.flatMap ('\x00' :: ·)) :
    xs = ys := by
  induction xs generalizing ys with
  | nil =>
    cases ys with
    | nil => rfl
    | cons y ys => cases h
  | cons x xs ih =>
    cases ys with
    | nil => cases h
    | cons y ys =>
      rw [List.forall_mem_cons] at hx hy
      obtain ⟨rfl, hrest⟩ := append_inj_of_forall (P := (· ≠ '\x00'))
        (fun c hc h0 => hx.1 (h0 ▸ hc)) (fun c hc h0 => hy.1 (h0 ▸ hc))
        (head_flatMap_nul xs) (head_flatMap_nul ys) (List.cons.inj h).2
      rw [ih hx.2 hy.2 hrest]

namespace ColumnSpec

private theorem head_flatMap_segments (cs : List ColumnSpec) :
    ∀ x ∈ (cs.flatMap segments).head?, ¬ x.head? = some 'r' := by
  cases cs <;> simp [segments, segment]

private theorem rules_alike {rules rules' : List Rule}
    (h : (rules.map fun r => segment "rule" r.signature) =
      rules'.map fun r => segment "rule" r.signature) : List.Forall₂ Rule.Alike rules rules' := by
  rw [map_eq_map_iff_forall₂] at h
  exact h.imp fun r q hrq => Rule.signature_eq_iff.mp (segment_inj.mp hrq)

private theorem forall₂_alike_of_segments {cs ds : List ColumnSpec}
    (h : cs.flatMap segments = ds.flatMap segments) : List.Forall₂ Alike cs ds := by
  induction cs generalizing ds with
  | nil =>
    cases ds with
    | nil => exact .nil
    | cons d ds => cases h
  | cons c cs ih =>
    cases ds with
    | nil => cases h
    | cons d ds =>
      simp only [List.flatMap_cons, segments, List.cons_append, List.cons.injEq, segment_inj,
        String.toList_inj] at h
      obtain ⟨hname, htype, hlocale, hrules⟩ := h
      obtain ⟨hrules, hrest⟩ := append_inj_of_forall (P := fun x => x.head? = some 'r')
        (by simp [segment]) (by simp [segment]) (head_flatMap_segments cs)
        (head_flatMap_segments ds) hrules
      have htype := congrArg CellType.ofName? htype
      rw [CellType.ofName?_name, CellType.ofName?_name] at htype
      exact .cons ⟨hname, Option.some.inj htype, hlocale, rules_alike hrules⟩ (ih hrest)

private theorem Alike.content_eq {c d : ColumnSpec} (h : c.Alike d) : c.content = d.content := by
  have hrules : (c.rules.map fun r => segment "rule" r.signature) =
      d.rules.map fun r => segment "rule" r.signature := by
    rw [map_eq_map_iff_forall₂]
    exact h.rules.imp fun r q hrq => segment_inj.mpr (Rule.signature_eq_iff.mpr hrq)
  rw [ColumnSpec.content_eq, ColumnSpec.content_eq, segments, segments, h.name, h.cellType,
    h.locale, hrules]

end ColumnSpec

namespace Schema
variable {s t : Schema}

private theorem content_eq (s : Schema) : s.content = "locale:".toList ++
    (s.locale.getD "").toList ++ s.columns.flatMap ColumnSpec.content := rfl

private theorem flatMap_content_of_alike {cs ds : List ColumnSpec}
    (h : List.Forall₂ ColumnSpec.Alike cs ds) :
    cs.flatMap ColumnSpec.content = ds.flatMap ColumnSpec.content := by
  induction h with
  | nil => rfl
  | cons hcd _ ih => rw [List.flatMap_cons, List.flatMap_cons, hcd.content_eq, ih]

private theorem Alike.content_eq (h : s.Alike t) : s.content = t.content := by
  rw [Schema.content_eq, Schema.content_eq, h.locale, flatMap_content_of_alike h.columns]

/-- The content of a schema without null characters tells its columns, types, rules and locales, but
not an empty locale from none. -/
theorem content_eq_iff_alike (hs : s.NulFree) (ht : t.NulFree) :
    s.content = t.content ↔ s.Alike t := by
  refine ⟨fun h => ?_, Alike.content_eq⟩
  have hcolumns (u : Schema) : u.columns.flatMap ColumnSpec.content =
      (u.columns.flatMap ColumnSpec.segments).flatMap ('\x00' :: ·) := by
    rw [List.flatMap_assoc]
    exact congrArg (u.columns.flatMap ·) (funext ColumnSpec.content_eq)
  have hfree {u : Schema} (hu : u.NulFree) :
      ∀ x ∈ u.columns.flatMap ColumnSpec.segments, '\x00' ∉ x := by
    intro x hx
    obtain ⟨c, hc, hx⟩ := List.mem_flatMap.mp hx
    exact ColumnSpec.nul_not_mem_segments (hu.columns c hc).1 (hu.columns c hc).2 x hx
  have hlocale {u : Schema} (hu : u.NulFree) :
      ∀ c ∈ "locale:".toList ++ (u.locale.getD "").toList, c ≠ '\x00' := by
    intro c hc h0
    rcases List.mem_append.mp hc with hc | hc
    · rw [h0] at hc
      exact absurd hc (by decide)
    · exact hu.locale (h0 ▸ hc)
  rw [content_eq, content_eq, hcolumns, hcolumns] at h
  obtain ⟨hfirst, hrest⟩ := append_inj_of_forall (P := (· ≠ '\x00')) (hlocale hs) (hlocale ht)
    (head_flatMap_nul _) (head_flatMap_nul _) h
  exact ⟨String.toList_inj.mp (List.append_cancel_left hfirst),
    ColumnSpec.forall₂_alike_of_segments (flatMap_nul_inj (hfree hs) (hfree ht) hrest)⟩

end Schema

private theorem toList_loop (b : ByteArray) (i : Nat) (r : List UInt8) :
    ByteArray.toList.loop b i r = r.reverse ++ b.data.toList.drop i := by
  fun_induction ByteArray.toList.loop b i r with
  | case1 i r h ih =>
    have hi : i < b.data.toList.length := h
    have hget : b.get! i = b.data.toList[i] := getElem!_pos b.data i h
    rw [ih, List.reverse_cons, List.append_assoc, List.drop_eq_getElem_cons hi, hget]
    rfl
  | case2 i r h =>
    rw [List.drop_eq_nil_of_le (Nat.le_of_not_lt h), List.append_nil]

private theorem toList_inj {b b' : ByteArray} (h : b.toList = b'.toList) : b = b' := by
  rw [ByteArray.toList, ByteArray.toList, toList_loop, toList_loop] at h
  exact ByteArray.ext (Array.toList_inj.mp h)

/-- The bytes of a content tell it. -/
theorem Schema.contentBytes_inj {s t : Schema} (h : s.contentBytes = t.contentBytes) :
    s.content = t.content :=
  String.ofList_inj.mp (String.toByteArray_inj.mp (toList_inj h))

structure ColumnSpec.Same (c d : ColumnSpec) : Prop where
  name : c.name = d.name
  cellType : c.cellType = d.cellType
  locale : c.locale = d.locale
  rules : List.Forall₂ Rule.Alike c.rules d.rules

structure Schema.Same (s t : Schema) : Prop where
  locale : s.locale = t.locale
  columns : List.Forall₂ ColumnSpec.Same s.columns t.columns

/-- No null characters in names and locales, and no locale that is there but empty. -/
structure Schema.Ordinary (s : Schema) : Prop where
  nulFree : s.NulFree
  locale : s.locale ≠ some ""
  columns : ∀ c ∈ s.columns, c.locale ≠ some ""

/-- Locales that are not empty are told from none. -/
theorem locale_eq_of_getD {a b : Option String} (ha : a ≠ some "") (hb : b ≠ some "")
    (h : a.getD "" = b.getD "") : a = b := by
  cases a <;> cases b <;> simp_all

private theorem ColumnSpec.Same.alike {c d : ColumnSpec} (h : c.Same d) : c.Alike d :=
  ⟨h.name, h.cellType, congrArg (Option.getD · "") h.locale, h.rules⟩

namespace Schema
variable {s t : Schema}

private theorem Same.alike (h : s.Same t) : s.Alike t :=
  ⟨congrArg (Option.getD · "") h.locale, h.columns.imp fun _ _ => ColumnSpec.Same.alike⟩

private theorem forall₂_same {cs ds : List ColumnSpec} (h : List.Forall₂ ColumnSpec.Alike cs ds)
    (hc : ∀ c ∈ cs, c.locale ≠ some "") (hd : ∀ d ∈ ds, d.locale ≠ some "") :
    List.Forall₂ ColumnSpec.Same cs ds := by
  induction h with
  | nil => exact .nil
  | cons hcd _ ih =>
    rw [List.forall_mem_cons] at hc hd
    exact .cons ⟨hcd.name, hcd.cellType, locale_eq_of_getD hc.1 hd.1 hcd.locale, hcd.rules⟩
      (ih hc.2 hd.2)

private theorem Ordinary.same_iff_alike (hs : s.Ordinary) (ht : t.Ordinary) :
    s.Same t ↔ s.Alike t :=
  ⟨Same.alike, fun h => ⟨locale_eq_of_getD hs.locale ht.locale h.locale,
    forall₂_same h.columns hs.columns ht.columns⟩⟩

def withAliases (s : Schema) (aliases : ColumnSpec → List String) : Schema :=
  { s with columns := s.columns.map fun c => { c with aliases := aliases c } }

private theorem alike_withAliases (s : Schema) (aliases : ColumnSpec → List String) :
    s.Alike (s.withAliases aliases) := by
  refine ⟨rfl, ?_⟩
  rw [withAliases, List.forall₂_map_right_iff, List.forall₂_same]
  intro c _
  exact ⟨rfl, rfl, rfl, List.forall₂_same.mpr fun r _ => .refl r⟩

/-- The bytes that are hashed tell an ordinary schema up to its aliases, whatever texts its rules
hold; the aliases of a schema never matter. -/
theorem contentBytes_eq_iff_same (hs : s.Ordinary) (ht : t.Ordinary) :
    (s.contentBytes = t.contentBytes ↔ s.Same t) ∧
      ∀ aliases, (s.withAliases aliases).contentBytes = s.contentBytes := by
  refine ⟨?same, fun aliases => ?aliases⟩
  case same =>
    rw [hs.same_iff_alike ht, ← content_eq_iff_alike hs.nulFree ht.nulFree]
    exact ⟨contentBytes_inj, fun h => by rw [contentBytes, contentBytes, h]⟩
  case aliases => rw [contentBytes, contentBytes, (s.alike_withAliases aliases).content_eq]

private def twoRules : Schema := ⟨[⟨"code", .string, [.pattern "x", .email], none, []⟩], none⟩

private def forgedRule : Schema :=
  ⟨[⟨"code", .string, [.pattern "x\"\x00rule:email"], none, ["id"]⟩], none⟩

/-- A pattern that holds the heading of a rule is not taken for two rules. -/
theorem contentBytes_eq_iff_same_forged_rule : twoRules.Ordinary ∧ forgedRule.Ordinary ∧
    twoRules.contentBytes ≠ forgedRule.contentBytes := by
  have htwo : twoRules.Ordinary := ⟨⟨by decide, by simp [twoRules]⟩, by decide, by simp [twoRules]⟩
  have hforged : forgedRule.Ordinary :=
    ⟨⟨by decide, by simp [forgedRule]⟩, by decide, by simp [forgedRule]⟩
  refine ⟨htwo, hforged, fun h => ?_⟩
  obtain ⟨htells, _⟩ := contentBytes_eq_iff_same htwo hforged
  have hlength := ((htells.mp h).columns.get (i := 0) (by decide) (by decide)).rules.length_eq
  exact absurd hlength (by decide)

end Schema
end TableAudit
