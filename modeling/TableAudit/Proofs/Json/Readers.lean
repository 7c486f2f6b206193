import TableAudit.Proofs.Json.Range

/-! Readers of lists, records and whole texts give what the readers of their parts give. -/
namespace TableAudit.Json

section Gives
variable {α β : Type} {P : α → Prop} {Q : β → Prop} {e : Except Fault α} {f : α → Except Fault β}

/-- What a reader gives satisfies a predicate; a fault gives nothing. -/
def Gives (e : Except Fault α) (P : α → Prop) : Prop := ∀ a, e = .ok a → P a

theorem gives_pure {a : α} (h : P a) : Gives (.ok a) P := by
  rintro _ ⟨⟩
  exact h

theorem gives_error (fault : Fault) : Gives (.error fault) P := by
  rintro _ ⟨⟩

theorem gives_true (e : Except Fault α) : Gives e fun _ => True := fun _ _ => trivial

theorem Gives.bind (h : Gives e P) (hf : ∀ a, P a → Gives (f a) Q) : Gives (e >>= f) Q := by
  cases e with
  | error fault => exact gives_error fault
  | ok a => exact hf a (h a rfl)

theorem Gives.map {g : α → β} (h : Gives e P) (hg : ∀ a, P a → Q (g a)) : Gives (e.map g) Q := by
  cases e with
  | error fault => exact gives_error fault
  | ok a => exact gives_pure (hg a (h a rfl))

theorem gives_needed {found : Option α} (h : ∀ a, found = some a → P a) :
    Gives (needed found) P := by
  cases found with
  | none => exact gives_error .wrongShape
  | some a => exact gives_pure (h a rfl)

theorem gives_once {old : Option α} (h : Gives e P) :
    Gives (once old e) fun found => ∀ a, found = some a → P a := by
  rw [once]
  split
  · exact gives_error .wrongShape
  · refine h.map fun a ha => ?_
    rintro _ ⟨⟩
    exact ha

end Gives

section Parts
variable {α σ : Type} {P : α → Prop} {S : σ → Prop} {read : Node → Except Fault α}
  {take : String → Node → σ → Except Fault σ}

private theorem Items.gives_toList (h : ∀ x : Node, x.InRange → Gives (read x) P) :
    ∀ items : Items, items.InRange → Gives (items.toList read) fun as => ∀ a ∈ as, P a
  | .done, _ => gives_pure (by simp)
  | .cut f, _ => gives_error f
  | .item x rest, ⟨hx, hrest⟩ => by
    rw [Items.toList]
    exact (h x hx).bind fun a ha => (gives_toList h rest hrest).bind fun as has =>
      gives_pure (List.forall_mem_cons.mpr ⟨ha, has⟩)

theorem Node.gives_toList (h : ∀ x : Node, x.InRange → Gives (read x) P) {x : Node}
    (hx : x.InRange) : Gives (x.toList read) fun as => ∀ a ∈ as, P a := by
  cases x with
  | array items => exact items.gives_toList h hx
  | _ => exact gives_error _

/-- What each member keeps is kept by all of them. -/
theorem Members.gives_fold
    (h : ∀ (name : String) (x : Node) (s : σ), x.InRange → S s → Gives (take name x s) S) :
    ∀ (members : Members) (s : σ), members.InRange → S s → Gives (members.fold take s) S
  | .done, _, _, hs => gives_pure hs
  | .cut f, _, _, _ => gives_error f
  | .badName found, _, _, _ => gives_error (Token.nameFault found)
  | .member none _ _, _, _, _ => gives_error .malformed
  | .member (some name) x rest, s, ⟨hx, hrest⟩, hs => by
    rw [Members.fold]
    exact (h name x s hx hs).bind fun s' hs' => gives_fold h rest s' hrest hs'

private theorem Items.gives_foldFields
    (h : ∀ (name : String) (x : Node) (s : σ), x.InRange → S s → Gives (take name x s) S) :
    ∀ (names : List String) (items : Items) (s : σ), items.InRange → S s →
      Gives (items.foldFields take names s) S
  | _, .cut f, _, _, _ => by
    rw [Items.foldFields]
    exact gives_error f
  | _, .done, _, _, hs => by
    rw [Items.foldFields]
    exact gives_pure hs
  | [], .item _ _, _, _, _ => gives_error .malformed
  | name :: names, .item x rest, s, ⟨hx, hrest⟩, hs => by
    rw [Items.foldFields]
    exact (h name x s hx hs).bind fun s' hs' => gives_foldFields h names rest s' hrest hs'

theorem Node.gives_toFields {fields : List String} {start : σ}
    (h : ∀ (name : String) (x : Node) (s : σ), x.InRange → S s → Gives (take name x s) S)
    (hstart : S start) {x : Node} (hx : x.InRange) : Gives (x.toFields fields take start) S := by
  cases x with
  | object members =>
    refine members.gives_fold (fun name y s hy hs => ?_) start hx hstart
    split
    · exact h name y s hy hs
    · exact (gives_true y.skip).bind fun _ _ => gives_pure hs
  | array items => exact items.gives_foldFields h fields start hx hstart
  | _ => exact gives_error _

/-- The numbers of a text are finite to each of its readers. -/
theorem gives_readText (h : ∀ x : Node, x.InRange → Gives (read x) P) (text : String) :
    Gives (readText read text) P := by
  rw [readText]
  refine (h _ (inRange_nodeOf text.toList)).bind fun a ha => ?_
  split
  · exact gives_error .malformed
  · exact gives_pure ha

end Parts

end TableAudit.Json
