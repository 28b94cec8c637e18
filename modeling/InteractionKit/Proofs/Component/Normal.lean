import InteractionKit.Component.Codec
/-
Components as they are read back.

Writing a button without a style writes the primary one, so a component is read back with every style filled in. Nothing
else changes, and what is written does not change at all.

- `withDefaultStyles`: every unset button style of a tree filled in.
- `Canonical`: no channel kind of a tree hides a name behind its number.
- `encode_withDefaultStyles`: styles that are filled in make no difference to writing.
-/
namespace InteractionKit

/-! ## Filled in styles -/

mutual
/-- every unset button style in the tree filled in -/
def Component.withDefaultStyles : Component → Component
  | .actionRow ⟨i, xs⟩ => .actionRow ⟨i, Component.withDefaultStylesAll xs⟩
  | .button b => .button b.withDefaultStyle
  | .textSection ⟨i, xs, x⟩ =>
    .textSection ⟨i, Component.withDefaultStylesAll xs, Component.withDefaultStyles x⟩
  | .container ⟨i, c, s, xs⟩ => .container ⟨i, c, s, Component.withDefaultStylesAll xs⟩
  | .selectMenu m => .selectMenu m
  | .textInput t => .textInput t
  | .textDisplay t => .textDisplay t
  | .thumbnail t => .thumbnail t
  | .mediaGallery g => .mediaGallery g
  | .file f => .file f
  | .separator s => .separator s
def Component.withDefaultStylesAll : List Component → List Component
  | [] => []
  | x :: xs => Component.withDefaultStyles x :: Component.withDefaultStylesAll xs
end

/-- every unset button style in the tree filled in; buttons stand only in rows -/
def ModalComponent.withDefaultStyles : ModalComponent → ModalComponent
  | .actionRow row => .actionRow { row with components := Component.withDefaultStylesAll row.components }
  | .label ⟨i, l, d, x⟩ => .label ⟨i, l, d, ModalComponent.withDefaultStyles x⟩
  | .textInput t => .textInput t
  | .selectMenu m => .selectMenu m
  | .textDisplay t => .textDisplay t
  | .fileUpload f => .fileUpload f

/-! ## Canonical channel kinds -/

/-- the channel kinds of a menu are those that numbers are read as -/
def SelectMenu.Canonical (m : SelectMenu) : Prop := ∀ k ∈ m.channelTypes, k.Canonical

mutual
/-- every menu in the tree has canonical channel kinds -/
def Component.Canonical : Component → Prop
  | .actionRow ⟨_, xs⟩ => Component.AllCanonical xs
  | .selectMenu m => m.Canonical
  | .textSection ⟨_, xs, x⟩ => Component.AllCanonical xs ∧ Component.Canonical x
  | .container ⟨_, _, _, xs⟩ => Component.AllCanonical xs
  | _ => True
def Component.AllCanonical : List Component → Prop
  | [] => True
  | x :: xs => Component.Canonical x ∧ Component.AllCanonical xs
end

/-- every menu in the tree has canonical channel kinds -/
def ModalComponent.Canonical : ModalComponent → Prop
  | .actionRow row => Component.AllCanonical row.components
  | .label ⟨_, _, _, x⟩ => ModalComponent.Canonical x
  | .selectMenu m => m.Canonical
  | _ => True

/-! ## Laws -/

theorem Button.members_withDefaultStyle (b : Button) : b.withDefaultStyle.members = b.members := rfl

mutual
theorem Component.encode_withDefaultStyles : (c : Component) → c.withDefaultStyles.encode = c.encode
  | .actionRow ⟨i, xs⟩ => by
    simp only [Component.withDefaultStyles, Component.encode, Component.encodeAll_withDefaultStyles xs]; rfl
  | .button b => by
    simp only [Component.withDefaultStyles, Component.encode, b.members_withDefaultStyle]
  | .textSection ⟨i, xs, x⟩ => by
    simp only [Component.withDefaultStyles, Component.encode, Component.encodeAll_withDefaultStyles xs,
      Component.encode_withDefaultStyles x]
    rfl
  | .container ⟨i, c, s, xs⟩ => by
    simp only [Component.withDefaultStyles, Component.encode, Component.encodeAll_withDefaultStyles xs]; rfl
  | .selectMenu _ | .textInput _ | .textDisplay _ | .thumbnail _ | .mediaGallery _ | .file _ | .separator _ => rfl
theorem Component.encodeAll_withDefaultStyles :
    (xs : List Component) → Component.encodeAll (Component.withDefaultStylesAll xs) = Component.encodeAll xs
  | [] => rfl
  | x :: xs => by
    simp only [Component.withDefaultStylesAll, Component.encodeAll, Component.encode_withDefaultStyles x,
      Component.encodeAll_withDefaultStyles xs]
end

theorem ModalComponent.encode_withDefaultStyles : (c : ModalComponent) → c.withDefaultStyles.encode = c.encode
  | .actionRow row => by
    simp only [ModalComponent.withDefaultStyles, ModalComponent.encode, Component.encodeAll_withDefaultStyles]; rfl
  | .label ⟨i, l, d, x⟩ => by
    simp only [ModalComponent.withDefaultStyles, ModalComponent.encode, ModalComponent.encode_withDefaultStyles x]; rfl
  | .textInput _ | .selectMenu _ | .textDisplay _ | .fileUpload _ => rfl

theorem Component.map_encode_withDefaultStyles (cs : List Component) :
    (cs.map Component.withDefaultStyles).map Component.encode = cs.map Component.encode := by
  rw [List.map_map]
  exact List.map_congr_left fun c _ => c.encode_withDefaultStyles

theorem ModalComponent.map_encode_withDefaultStyles (cs : List ModalComponent) :
    (cs.map ModalComponent.withDefaultStyles).map ModalComponent.encode = cs.map ModalComponent.encode := by
  rw [List.map_map]
  exact List.map_congr_left fun c _ => c.encode_withDefaultStyles

end InteractionKit
