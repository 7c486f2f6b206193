import Mathlib.Data.Set.Basic
import TableAudit.Plan.Cache
import TableAudit.Proofs.Plan.Meaning
import TableAudit.Proofs.Schema.Content

/-! What a cache of plans may answer. A plan made earlier is the answer for every schema with the
same content. -/
namespace TableAudit

structure ColumnPlan.Alike (p q : ColumnPlan) : Prop where
  name : p.name = q.name
  locale : p.locale = q.locale
  isRequired : p.isRequired = q.isRequired
  isUnique : p.isUnique = q.isUnique
  notice? : ∀ code, p.notice? code = q.notice? code
  customRules : p.customRules = q.customRules
  validate : ∀ value, p.validate value = q.validate value

def AuditPlan.Alike (p q : AuditPlan) : Prop := List.Forall₂ ColumnPlan.Alike p.columns q.columns

private theorem AuditPlan.alike_refl (p : AuditPlan) : p.Alike p :=
  List.forall₂_same.mpr fun _ _ => ⟨rfl, rfl, rfl, rfl, fun _ => rfl, rfl, fun _ => rfl⟩

namespace PlanCache

inductive Call where
  | get (s : Schema)
  | contains (s : Schema)
  | invalidate (s : Schema)
  | clear

def Call.Within (S : Set Schema) : Call → Prop
  | get s | contains s | invalidate s => s ∈ S
  | clear => True

def step (c : PlanCache) : Call → PlanCache
  | .get s => (c.get s).2
  | .contains _ => c
  | .invalidate s => (c.invalidate s).2
  | .clear => c.clear

def run (c : PlanCache) (calls : List Call) : PlanCache := calls.foldl step c

/-- The cache answers for a schema as planning does. -/
def Transparent (c : PlanCache) (s : Schema) : Prop :=
  match (c.get s).1, s.plan c.source with
  | .ok shared, .ok p => shared.plan.Alike p
  | .error _, .error _ => True
  | _, _ => False

/-- The cache is transparent for these schemas behind all calls about them. -/
def AlwaysTransparent (source : LocaleSource) (S : Set Schema) : Prop :=
  ∀ calls : List Call, (∀ call ∈ calls, call.Within S) →
    ∀ s ∈ S, ((empty source).run calls).Transparent s

/-- Every entry is a plan of one of these schemas, under its fingerprint. -/
structure Faithful (source : LocaleSource) (S : Set Schema) (c : PlanCache) : Prop where
  source_eq : c.source = source
  entry : ∀ {k shared}, c.entries[k]? = some shared →
    ∃ s ∈ S, s.fingerprint = k ∧ s.plan source = .ok shared.plan

theorem faithful_empty (source : LocaleSource) (S : Set Schema) : (empty source).Faithful source S :=
  ⟨rfl, fun h => by simp [empty] at h⟩

variable {source : LocaleSource} {S : Set Schema} {c : PlanCache} {s : Schema}

private theorem Faithful.get (h : c.Faithful source S) (hs : s ∈ S) :
    (c.get s).2.Faithful source S := by
  unfold PlanCache.get
  split
  · exact h
  split
  · exact h
  · rename_i p hp
    refine ⟨h.source_eq, fun {k shared} hk => ?_⟩
    simp only [Std.TreeMap.getElem?_insert] at hk
    split at hk
    · rename_i hkey
      cases hk
      exact ⟨s, hs, Std.LawfulEqCmp.eq_of_compare hkey, h.source_eq ▸ hp⟩
    · exact h.entry hk

private theorem Faithful.invalidate (h : c.Faithful source S) (s : Schema) :
    (c.invalidate s).2.Faithful source S := by
  refine ⟨h.source_eq, fun {k shared} hk => ?_⟩
  simp only [PlanCache.invalidate, Std.TreeMap.getElem?_erase] at hk
  split at hk
  · cases hk
  · exact h.entry hk

private theorem Faithful.step (h : c.Faithful source S) {call : Call} (hc : call.Within S) :
    (c.step call).Faithful source S := by
  cases call with
  | get s => exact h.get hc
  | contains => exact h
  | invalidate s => exact h.invalidate s
  | clear => exact ⟨h.source_eq, fun hk => by simp [PlanCache.step, PlanCache.clear] at hk⟩

theorem Faithful.run (h : c.Faithful source S) {calls : List Call}
    (hc : ∀ call ∈ calls, call.Within S) : (c.run calls).Faithful source S := by
  induction calls generalizing c with
  | nil => exact h
  | cons call calls ih =>
    rw [List.forall_mem_cons] at hc
    exact ih (h.step hc.1) hc.2

end PlanCache

def Schema.resolvedLocales (s : Schema) : List (Option String) :=
  s.columns.map fun c => c.locale.or s.locale

def Schema.customRules (s : Schema) : List CustomRule :=
  s.columns.flatMap fun c => c.rules.filterMap Rule.custom?

/-- Custom predicates of one identity are the same. -/
def IdentityTells (S : Set Schema) : Prop :=
  ∀ s ∈ S, ∀ t ∈ S, ∀ a ∈ s.customRules, ∀ b ∈ t.customRules, a.identity = b.identity →
    a.accepts = b.accepts

private theorem ColumnSpec.plan_congr {c d : ColumnSpec} {l l' : Option String}
    {source : LocaleSource}
    (hname : c.name = d.name) (htype : c.cellType = d.cellType) (hrules : c.rules = d.rules)
    (hlocale : c.locale.or l = d.locale.or l') : c.plan l source = d.plan l' source := by
  cases c
  cases d
  simp only at hname htype hrules hlocale
  subst hname htype hrules
  simp only [plan, hlocale]
  rfl

private theorem rules_eq_of_alike {rules rules' : List Rule}
    (h : List.Forall₂ Rule.Alike rules rules')
    (hid : ∀ a ∈ rules.filterMap Rule.custom?, ∀ b ∈ rules'.filterMap Rule.custom?,
      a.identity = b.identity → a.accepts = b.accepts) : rules = rules' := by
  induction h with
  | nil => rfl
  | @cons r q rs qs hrq _ ih =>
    have hrest := ih fun a ha b hb => hid a (by grind) b (by grind)
    rcases hrq with _ | @⟨a, b, hab, hmessage⟩
    · rw [hrest]
    · have haccepts := hid a (by simp [Rule.custom?]) b (by simp [Rule.custom?]) hab
      cases a
      cases b
      simp_all

private theorem mapM_plan_congr {cs ds : List ColumnSpec} {l l' : Option String}
    (source : LocaleSource) (h : List.Forall₂ ColumnSpec.Alike cs ds)
    (hid : ∀ a ∈ cs.flatMap (fun c => c.rules.filterMap Rule.custom?),
      ∀ b ∈ ds.flatMap (fun c => c.rules.filterMap Rule.custom?),
        a.identity = b.identity → a.accepts = b.accepts)
    (hlocales : (cs.map fun c => c.locale.or l) = ds.map fun d => d.locale.or l') :
    cs.mapM (fun c => c.plan l source) = ds.mapM (fun d => d.plan l' source) := by
  induction h with
  | nil => rfl
  | @cons c d cs ds hcd _ ih =>
    obtain ⟨hlocale, hlocales⟩ := List.cons.inj hlocales
    simp only [List.flatMap_cons, List.mem_append] at hid
    have hrules := rules_eq_of_alike hcd.rules fun a ha b hb => hid a (.inl ha) b (.inl hb)
    rw [List.mapM_cons, List.mapM_cons, ColumnSpec.plan_congr hcd.name hcd.cellType hrules hlocale,
      ih (fun a ha b hb => hid a (.inr ha) b (.inr hb)) hlocales]

private theorem Schema.plan_congr {s t : Schema} (source : LocaleSource) (h : s.Alike t)
    (hid : ∀ a ∈ s.customRules, ∀ b ∈ t.customRules, a.identity = b.identity →
      a.accepts = b.accepts)
    (hlocales : s.resolvedLocales = t.resolvedLocales) : s.plan source = t.plan source := by
  have hnames : s.names = t.names := by
    rw [names, names, map_eq_map_iff_forall₂]
    exact h.columns.imp fun _ _ => ColumnSpec.Alike.name
  rw [plan, plan, checkNames, checkNames, hnames, mapM_plan_congr source h.columns hid hlocales]

private theorem Schema.map_locale_of_plan {s : Schema} {source : LocaleSource} {p : AuditPlan}
    (h : s.plan source = .ok p) : p.columns.map (·.locale) = s.resolvedLocales := by
  symm
  rw [resolvedLocales, map_eq_map_iff_forall₂]
  refine (plan_eq_ok.mp h).2.imp fun c q hq => ?_
  obtain ⟨d, _, _, rfl⟩ := ColumnSpec.plan_eq_ok hq
  rfl

/-- No two of these schemas with different contents have one fingerprint. -/
def DigestTells (S : Set Schema) : Prop :=
  ∀ s ∈ S, ∀ t ∈ S, s.fingerprint = t.fingerprint → s.contentBytes = t.contentBytes

/-- Of schemas with the same content either both have plans, which do the same, or neither has one. -/
def ContentTells (source : LocaleSource) (S : Set Schema) : Prop :=
  ∀ s ∈ S, ∀ t ∈ S, s.content = t.content → ∀ p, s.plan source = .ok p →
    ∃ q, t.plan source = .ok q ∧ p.Alike q

namespace PlanCache
variable {source : LocaleSource} {S : Set Schema}

private theorem step_get_empty {s : Schema} {p : AuditPlan} (h : s.plan source = .ok p) :
    (empty source).step (.get s) =
      ⟨source, 1, (∅ : Std.TreeMap String SharedPlan).insert s.fingerprint ⟨0, p⟩⟩ := by
  simp [step, get, empty, h]

private theorem get_behind_get {s t : Schema} {p : AuditPlan} (h : s.plan source = .ok p)
    (hc : s.content = t.content) :
    (((empty source).run [.get s]).get t).1 = .ok ⟨0, p⟩ ∧
      ((empty source).run [.get s]).source = source := by
  have hkey : s.fingerprint = t.fingerprint := by
    rw [Schema.fingerprint, Schema.fingerprint, Schema.contentBytes, Schema.contentBytes, hc]
  rw [run, List.foldl_cons, List.foldl_nil, step_get_empty h]
  simp [get, hkey]

private theorem contentTells_of_alwaysTransparent (h : AlwaysTransparent source S) :
    ContentTells source S := by
  intro s hs t ht hc p hp
  have htransparent := h [.get s] (by simpa [Call.Within] using hs) t ht
  obtain ⟨hget, hsource⟩ := get_behind_get hp hc
  rw [Transparent, hget, hsource] at htransparent
  cases hq : t.plan source with
  | error e =>
    rw [hq] at htransparent
    exact htransparent.elim
  | ok q =>
    rw [hq] at htransparent
    exact ⟨q, rfl, htransparent⟩

private theorem Faithful.transparent {c : PlanCache} (h : c.Faithful source S)
    (hdigest : DigestTells S)
    (htells : ContentTells source S) {s : Schema} (hs : s ∈ S) : c.Transparent s := by
  rw [Transparent, PlanCache.get, h.source_eq]
  cases hentry : c.entries[s.fingerprint]? with
  | some shared =>
    obtain ⟨t, ht, hkey, hp⟩ := h.entry hentry
    obtain ⟨q, hq, halike⟩ :=
      htells t ht s hs (Schema.contentBytes_inj (hdigest t ht s hs hkey)) _ hp
    rw [hq]
    exact halike
  | none =>
    cases hq : s.plan source with
    | error e => simp
    | ok q => simpa using q.alike_refl

private theorem alwaysTransparent_of_contentTells (hdigest : DigestTells S)
    (htells : ContentTells source S) : AlwaysTransparent source S := fun _ hcalls _ hs =>
  ((faithful_empty source S).run hcalls).transparent hdigest htells hs

private theorem contentTells_iff (hfree : ∀ s ∈ S, s.NulFree) (hid : IdentityTells S) :
    ContentTells source S ↔ ∀ s ∈ S, ∀ t ∈ S, s.content = t.content →
      (∃ p, s.plan source = .ok p) → s.resolvedLocales = t.resolvedLocales := by
  constructor
  · rintro h s hs t ht hc ⟨p, hp⟩
    obtain ⟨q, hq, halike⟩ := h s hs t ht hc p hp
    rw [← Schema.map_locale_of_plan hp, ← Schema.map_locale_of_plan hq, map_eq_map_iff_forall₂]
    exact halike.imp fun _ _ => ColumnPlan.Alike.locale
  · intro h s hs t ht hc p hp
    have halike := (Schema.content_eq_iff_alike (hfree s hs) (hfree t ht)).mp hc
    rw [Schema.plan_congr source halike (hid s hs t ht) (h s hs t ht hc ⟨p, hp⟩)] at hp
    exact ⟨p, hp, p.alike_refl⟩

private theorem map_locale_congr {cs ds : List ColumnSpec} (l : Option String)
    (h : List.Forall₂ ColumnSpec.Alike cs ds) (hc : ∀ c ∈ cs, c.locale ≠ some "")
    (hd : ∀ d ∈ ds, d.locale ≠ some "") :
    (cs.map fun c => c.locale.or l) = ds.map fun d => d.locale.or l := by
  induction h with
  | nil => rfl
  | cons hcd _ ih =>
    rw [List.forall_mem_cons] at hc hd
    rw [List.map_cons, List.map_cons, locale_eq_of_getD hc.1 hd.1 hcd.locale, ih hc.2 hd.2]

/-- Schemas without null characters and without empty locales are told apart by their contents. -/
theorem alwaysTransparent_of_ordinary (hdigest : DigestTells S) (hid : IdentityTells S)
    (hfree : ∀ s ∈ S, s.NulFree)
    (hempty : ∀ s ∈ S, s.locale ≠ some "" ∧ ∀ c ∈ s.columns, c.locale ≠ some "") :
    AlwaysTransparent source S := by
  refine alwaysTransparent_of_contentTells hdigest ((contentTells_iff hfree hid).mpr ?_)
  intro s hs t ht hc _
  have halike := (Schema.content_eq_iff_alike (hfree s hs) (hfree t ht)).mp hc
  rw [Schema.resolvedLocales, Schema.resolvedLocales,
    locale_eq_of_getD (hempty s hs).1 (hempty t ht).1 halike.locale]
  exact map_locale_congr _ halike.columns (hempty s hs).2 (hempty t ht).2

/-- A cache answers as planning does, whatever it was asked before, exactly when schemas with the
same content have plans that do the same. Without null characters this says that the same locales
count for them; the content does not tell an empty locale from none. -/
theorem alwaysTransparent_iff (hdigest : DigestTells S) :
    (AlwaysTransparent source S ↔ ContentTells source S) ∧
    ((∀ s ∈ S, s.NulFree) → IdentityTells S →
      (AlwaysTransparent source S ↔ ∀ s ∈ S, ∀ t ∈ S, s.content = t.content →
        (∃ p, s.plan source = .ok p) → s.resolvedLocales = t.resolvedLocales)) := by
  have h : AlwaysTransparent source S ↔ ContentTells source S :=
    ⟨contentTells_of_alwaysTransparent, alwaysTransparent_of_contentTells hdigest⟩
  exact ⟨h, fun hfree hid => h.trans (contentTells_iff hfree hid)⟩

private def note : Schema := ⟨[⟨"note", .string, [.maxLength 80], none, []⟩], none⟩

private def remark : Schema := ⟨[⟨"note", .string, [.maxLength 80], none, ["remark"]⟩], none⟩

/-- Schemas that differ in aliases may share a cache. -/
theorem alwaysTransparent_iff_remark : AlwaysTransparent .standard {note, remark} := by
  have hcontent : ∀ s ∈ ({note, remark} : Set Schema), s.content = note.content := by
    rintro s (rfl | rfl) <;> rfl
  have hlocales : ∀ s ∈ ({note, remark} : Set Schema), s.resolvedLocales = [none] := by
    rintro s (rfl | rfl) <;> rfl
  have hcustom : ∀ s ∈ ({note, remark} : Set Schema), s.customRules = [] := by
    rintro s (rfl | rfl) <;> rfl
  have hfree : ∀ s ∈ ({note, remark} : Set Schema), s.NulFree := by
    rintro s (rfl | rfl) <;> exact ⟨by decide, by simp [note, remark]⟩
  have hdigest : DigestTells {note, remark} := fun s hs t ht _ => by
    rw [Schema.contentBytes, Schema.contentBytes, hcontent s hs, hcontent t ht]
  refine ((alwaysTransparent_iff hdigest).2 hfree fun s hs t ht a ha => ?_).mpr
    fun s hs t ht _ _ => (hlocales s hs).trans (hlocales t ht).symm
  simp [hcustom s hs] at ha

private def date : Schema := ⟨[⟨"d", .date, [], none, []⟩], none⟩

private def dateInEmptyLocale : Schema := ⟨[⟨"d", .date, [], some "", []⟩], none⟩

/-- The plan of a date column without a locale is the answer for one with the empty locale, which has
none. -/
theorem not_alwaysTransparent_empty_locale :
    date.contentBytes = dateInEmptyLocale.contentBytes ∧
      ¬ ((empty .standard).run [.get date]).Transparent dateInEmptyLocale := by
  have hcontent : date.content = dateInEmptyLocale.content := rfl
  refine ⟨congrArg (fun l => (String.ofList l).toUTF8.toList) hcontent, fun h => ?_⟩
  obtain ⟨p, hp⟩ : ∃ p, date.plan .standard = .ok p := ⟨_, rfl⟩
  have herror : dateInEmptyLocale.plan .standard = .error (.unknownLocale "d" "" .date) := by rfl
  obtain ⟨hget, hsource⟩ := get_behind_get hp hcontent
  rw [Transparent, hget, hsource, herror] at h
  exact h

end PlanCache
end TableAudit
