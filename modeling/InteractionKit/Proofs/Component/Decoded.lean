import InteractionKit.Proofs.Component.RoundTrip
import InteractionKit.Proofs.Json.Ensures
/-
What is read as a component.

Every tree that is read has canonical channel kinds, so it goes through the wire and comes back with its styles filled
in. It comes back as it was exactly when every button in it has a style.

- `Component.field_ensures`, `ModalComponent.field_ensures`: inside a record only canonical trees are read.
- `Component.field_reads`, `ModalComponent.field_reads`: inside a record a canonical tree is read back with its styles
  filled in.
- `Component.Styled`, `ModalComponent.Styled`: every button has a style.
- `Component.withDefaultStyles_eq_self`, `ModalComponent.withDefaultStyles_eq_self`: nothing is left to fill in exactly
  then.
-/
namespace InteractionKit

open Reader

/-! ## Canonical trees -/

section Shapes

variable {α β : Type} {P : α → Prop} {Q : β → Prop}

/-- what a shape ensures holds of the component around it -/
theorem Reader.Ensures.decodeShape {r : Reader α} {f : α → β} (h : r.Ensures P) {ms : Members} {b : β}
    (hb : r.decodeShape f ms = .ok b) (hf : ∀ a, P a → Q (f a)) : Q b := by
  unfold Reader.decodeShape at hb
  split at hb
  · next a ha =>
    cases hb
    exact hf a (h.decodeMembers ha)
  · cases hb

/-- a refusal that is passed on changes nothing of what is read -/
theorem nestError_eq_ok {x : Except DecodeError α} {a : α} (h : nestError x = .ok a) : x = .ok a := by
  cases x with
  | ok b =>
    cases h
    rfl
  | error e => cases h

end Shapes

theorem SelectMenu.ensures_canonical (k : MenuKind) : (reader k).Ensures Canonical := by
  -- three fields stand behind the channel kinds, six between them and the start
  iterate 3 refine .pass ?_
  refine .seq ?_ (ensures_defaulted ChannelKind.ensures_canonical.list (by simp))
  iterate 6 refine .pass ?_
  refine Ensures.map (ensures_true _) ?_
  intros
  assumption

section Layouts

variable {γ : Type} {P : γ → Prop} {Q : List γ → Prop} {children : Decoder (List γ)} {child : Decoder γ}

theorem ActionRow.ensures (hc : children.Ensures Q) (hnil : Q []) :
    (reader children).Ensures fun row => Q row.components := by
  refine .seq ?_ (ensures_defaulted hc hnil)
  exact .map (ensures_true _) fun _ _ _ h => h

theorem TextSection.ensures (hc : children.Ensures Q) (hv : child.Ensures P) :
    (reader children child).Ensures fun s => Q s.components ∧ P s.accessory := by
  refine .seq (.seq ?_ (ensures_required hc)) (ensures_required hv)
  exact .map (ensures_true _) fun _ _ _ hs _ h => ⟨hs, h⟩

theorem Container.ensures (hc : children.Ensures Q) : (reader children).Ensures fun c => Q c.components := by
  refine .seq (.pass (.pass ?_)) (ensures_required hc)
  exact .map (ensures_true _) fun _ _ _ _ _ h => h

theorem Label.ensures (hv : child.Ensures P) : (reader child).Ensures fun l => P l.component := by
  refine .seq (.pass (.pass ?_)) (ensures_required hv)
  exact .map (ensures_true _) fun _ _ _ _ _ h => h

end Layouts

namespace Component

theorem allCanonical_iff {xs : List Component} : AllCanonical xs ↔ ∀ x ∈ xs, x.Canonical := by
  induction xs with
  | nil => simp [AllCanonical]
  | cons x xs ih => simp [AllCanonical, ih]

/-- a component is canonical when its children are -/
theorem canonical_ofMembers {ms : Members} {children : Decoder (List Component)} {accessory : Decoder Component}
    (hc : children.Ensures AllCanonical) (ha : accessory.Ensures Canonical) {c : Component}
    (h : ofMembers ms children accessory = .ok c) : c.Canonical := by
  have hmenu (k : MenuKind) (h : (SelectMenu.reader k).decodeShape Component.selectMenu ms = .ok c) : c.Canonical :=
    (SelectMenu.ensures_canonical k).decodeShape h fun _ hm => hm
  unfold ofMembers at h
  split at h
  · cases h
  · next kind _ =>
    cases kind with
    | actionRow => exact (ActionRow.ensures hc trivial).decodeShape h fun _ hs => hs
    | «section» => exact (TextSection.ensures hc ha).decodeShape h fun _ hs => hs
    | container => exact (Container.ensures hc).decodeShape h fun _ hs => hs
    | textSelectMenu | userSelectMenu | roleSelectMenu | mentionableSelectMenu | channelSelectMenu => exact hmenu _ h
    | label | fileUpload => cases h
    | _ => exact (ensures_true _).decodeShape h fun _ _ => trivial

mutual
/-- every component that is read has canonical channel kinds -/
theorem canonical_of_decode : (v : Json) → {c : Component} → decode v = .ok c → c.Canonical
  | .obj ms, _, h => by
    rw [decode] at h
    exact canonical_ofMembers (fun _ _ hxs => canonical_of_childrenIn ms hxs)
      (fun _ _ hx => canonical_of_accessoryIn ms hx) h
  | .null, _, h | .bool _, _, h | .int _, _, h | .float _, _, h | .str _, _, h | .arr _, _, h => by cases h
theorem canonical_of_childrenIn : (ms : Members) → {xs : List Component} → childrenIn ms = .ok xs → AllCanonical xs
  | [], _, h => by
    cases h
    trivial
  | (k, v) :: r, _, h => by
    rw [childrenIn] at h
    split at h
    · exact canonical_of_childrenOf v h
    · exact canonical_of_childrenIn r h
theorem canonical_of_childrenOf : (v : Json) → {xs : List Component} → childrenOf v = .ok xs → AllCanonical xs
  | .arr vs, _, h => canonical_of_decodeAll vs h
  | .null, _, h | .bool _, _, h | .int _, _, h | .float _, _, h | .str _, _, h | .obj _, _, h => by cases h
theorem canonical_of_decodeAll : (vs : List Json) → {xs : List Component} → decodeAll vs = .ok xs → AllCanonical xs
  | [], _, h => by
    cases h
    trivial
  | v :: vs, _, h => by
    rw [decodeAll] at h
    split at h
    · cases h
    · next x hx =>
      obtain ⟨xs, hxs, rfl⟩ := map_eq_ok h
      exact ⟨canonical_of_decode v hx, canonical_of_decodeAll vs hxs⟩
theorem canonical_of_accessoryIn : (ms : Members) → {c : Component} → accessoryIn ms = .ok c → c.Canonical
  | [], _, h => by cases h
  | (k, v) :: r, _, h => by
    rw [accessoryIn] at h
    split at h
    · exact canonical_of_decode v (nestError_eq_ok h)
    · exact canonical_of_accessoryIn r h
end

theorem nested_ensures : nested.Ensures Canonical := fun v _ h => canonical_of_decode v (nestError_eq_ok h)

theorem field_ensures : field.Ensures Canonical := fun v _ h => nested_ensures (v := v.canonical) h

/-- inside a record a tree comes back with its styles filled in -/
theorem field_reads {c : Component} (h : c.Canonical) : field.Reads c.encode c.withDefaultStyles := by
  show nestError (decode c.encode.canonical.canonical) = .ok c.withDefaultStyles
  rw [Json.canonical_canonical, decode_encode c h]; rfl

end Component

namespace ModalComponent

theorem canonical_ofMembers {ms : Members} {child : Decoder ModalComponent} (hc : child.Ensures Canonical)
    {c : ModalComponent} (h : ofMembers ms child = .ok c) : c.Canonical := by
  have hmenu (k : MenuKind) (h : (SelectMenu.reader k).decodeShape ModalComponent.selectMenu ms = .ok c) :
      c.Canonical :=
    (SelectMenu.ensures_canonical k).decodeShape h fun _ hm => hm
  have hrow : (Decoder.list Component.nested).Ensures Component.AllCanonical :=
    Component.nested_ensures.list.mono fun _ => Component.allCanonical_iff.2
  unfold ofMembers at h
  split at h
  · cases h
  · next kind _ =>
    cases kind with
    | actionRow => exact (ActionRow.ensures hrow trivial).decodeShape h fun _ hs => hs
    | label => exact (Label.ensures hc).decodeShape h fun _ hs => hs
    | textSelectMenu | userSelectMenu | roleSelectMenu | mentionableSelectMenu | channelSelectMenu => exact hmenu _ h
    | textInput | textDisplay | fileUpload => exact (ensures_true _).decodeShape h fun _ _ => trivial
    | _ => cases h

mutual
/-- every component of a modal that is read has canonical channel kinds -/
theorem canonical_of_decode : (v : Json) → {c : ModalComponent} → decode v = .ok c → c.Canonical
  | .obj ms, _, h => by
    rw [decode] at h
    exact canonical_ofMembers (fun _ _ hx => canonical_of_childIn ms hx) h
  | .null, _, h | .bool _, _, h | .int _, _, h | .float _, _, h | .str _, _, h | .arr _, _, h => by cases h
theorem canonical_of_childIn : (ms : Members) → {c : ModalComponent} → childIn ms = .ok c → c.Canonical
  | [], _, h => by cases h
  | (k, v) :: r, _, h => by
    rw [childIn] at h
    split at h
    · exact canonical_of_decode v (nestError_eq_ok h)
    · exact canonical_of_childIn r h
end

theorem field_ensures : field.Ensures Canonical := fun v _ h => canonical_of_decode v.canonical (nestError_eq_ok h)

/-- inside a record a tree comes back with its styles filled in -/
theorem field_reads {c : ModalComponent} (h : c.Canonical) : field.Reads c.encode c.withDefaultStyles := by
  show nestError (decode c.encode.canonical.canonical) = .ok c.withDefaultStyles
  rw [Json.canonical_canonical, decode_encode c h]; rfl

end ModalComponent

/-! ## Styled trees -/

theorem map_eq_self {α : Type} {f : α → α} {as : List α} : as.map f = as ↔ ∀ a ∈ as, f a = a := by
  simpa using List.map_inj_left (l := as) (f := f) (g := id)

theorem Button.withDefaultStyle_eq_self {b : Button} : b.withDefaultStyle = b ↔ b.style ≠ none := by
  obtain ⟨id, customId, disabled, emoji, label, style, url, skuId⟩ := b
  cases style <;> simp [withDefaultStyle, effectiveStyle]

mutual
/-- every button in the tree has a style -/
def Component.Styled : Component → Prop
  | .actionRow ⟨_, xs⟩ => Component.AllStyled xs
  | .button b => b.style ≠ none
  | .textSection ⟨_, xs, x⟩ => Component.AllStyled xs ∧ Component.Styled x
  | .container ⟨_, _, _, xs⟩ => Component.AllStyled xs
  | _ => True
def Component.AllStyled : List Component → Prop
  | [] => True
  | x :: xs => Component.Styled x ∧ Component.AllStyled xs
end

/-- every button in the tree has a style -/
def ModalComponent.Styled : ModalComponent → Prop
  | .actionRow row => Component.AllStyled row.components
  | .label ⟨_, _, _, x⟩ => ModalComponent.Styled x
  | _ => True

mutual
/-- nothing is left to fill in exactly when every button has a style -/
theorem Component.withDefaultStyles_eq_self : (c : Component) → (c.withDefaultStyles = c ↔ c.Styled)
  | .actionRow ⟨i, xs⟩ => by
    simp [Component.withDefaultStyles, Component.Styled, Component.withDefaultStylesAll_eq_self xs]
  | .button b => by simp [Component.withDefaultStyles, Component.Styled, Button.withDefaultStyle_eq_self]
  | .textSection ⟨i, xs, x⟩ => by
    simp [Component.withDefaultStyles, Component.Styled, Component.withDefaultStylesAll_eq_self xs,
      Component.withDefaultStyles_eq_self x]
  | .container ⟨i, c, s, xs⟩ => by
    simp [Component.withDefaultStyles, Component.Styled, Component.withDefaultStylesAll_eq_self xs]
  | .selectMenu _ | .textInput _ | .textDisplay _ | .thumbnail _ | .mediaGallery _ | .file _ | .separator _ => by
    simp [Component.withDefaultStyles, Component.Styled]
theorem Component.withDefaultStylesAll_eq_self :
    (xs : List Component) → (Component.withDefaultStylesAll xs = xs ↔ Component.AllStyled xs)
  | [] => by simp [Component.withDefaultStylesAll, Component.AllStyled]
  | x :: xs => by
    simp [Component.withDefaultStylesAll, Component.AllStyled, Component.withDefaultStyles_eq_self x,
      Component.withDefaultStylesAll_eq_self xs]
end

theorem ModalComponent.withDefaultStyles_eq_self : (c : ModalComponent) → (c.withDefaultStyles = c ↔ c.Styled)
  | .actionRow ⟨i, xs⟩ => by
    simp [ModalComponent.withDefaultStyles, ModalComponent.Styled, Component.withDefaultStylesAll_eq_self xs]
  | .label ⟨i, l, d, x⟩ => by
    simp [ModalComponent.withDefaultStyles, ModalComponent.Styled, ModalComponent.withDefaultStyles_eq_self x]
  | .textInput _ | .selectMenu _ | .textDisplay _ | .fileUpload _ => by
    simp [ModalComponent.withDefaultStyles, ModalComponent.Styled]

end InteractionKit
