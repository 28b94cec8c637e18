import InteractionKit.Proofs.Component.Decoded
/-
Every component is read back.

Canonical trees come back with their styles filled in. Any other tree is written like a canonical one: a channel kind
that hides a name behind its number is written as the number, and the number is read as the name. So no tree is lost on
the wire. It comes back with its buttons and its menus touched up, and with the shape that it had.

- `Touch`: what is made of the buttons and of the menus of a tree; `Touch.Silent`: nothing that is written shows it.
- `retouch`: a tree of either family, touched up.
- `encode_retouch`: a silent touch makes no difference to what is written.
- `Touch.readBack`: what reading makes of a tree that was written.
- `Component.relay_eq`, `ModalComponent.relay_eq`: every tree comes back, touched up.
-/
namespace InteractionKit

/-! ## Plain channel kinds -/

theorem memberList_map {α β : Type} (key : String) (encode : β → Json) (f : α → β) (as : List α) :
    memberList key encode (as.map f) = memberList key (encode ∘ f) as := by
  cases as with
  | nil => rfl
  | cons a as => simp [memberList]

/-- the kind that the number of a kind is read as -/
def ChannelKind.plain (k : ChannelKind) : ChannelKind := ofCode k.code

theorem ChannelKind.plain_canonical (k : ChannelKind) : k.plain.Canonical := congrArg ofCode (code_ofCode k.code)

theorem ChannelKind.encode_plain (k : ChannelKind) : k.plain.encode = k.encode :=
  congrArg Json.uint16 (code_ofCode k.code)

namespace SelectMenu

/-- a menu with plain channel kinds -/
def plain (m : SelectMenu) : SelectMenu := { m with channelTypes := m.channelTypes.map ChannelKind.plain }

theorem plain_canonical (m : SelectMenu) : m.plain.Canonical := by
  intro k hk
  obtain ⟨k', -, rfl⟩ := List.mem_map.1 hk
  exact k'.plain_canonical

theorem members_plain (m : SelectMenu) : m.plain.members = m.members := by
  have hencode : ChannelKind.encode ∘ ChannelKind.plain = ChannelKind.encode := funext ChannelKind.encode_plain
  simp only [members, plain, memberList_map, hencode]

end SelectMenu

/-! ## Touching up -/

/-- what is made of the buttons and of the menus of a tree -/
structure Touch where
  button : Button → Button
  menu : SelectMenu → SelectMenu

/-- nothing that is written shows the touch -/
structure Touch.Silent (t : Touch) : Prop where
  button : ∀ b, (t.button b).members = b.members
  menu : ∀ m, (t.menu m).members = m.members
  kind : ∀ m, (t.menu m).kind = m.kind

mutual
/-- a tree with its buttons and menus touched up -/
def Component.retouch (t : Touch) : Component → Component
  | .actionRow ⟨i, xs⟩ => .actionRow ⟨i, Component.retouchAll t xs⟩
  | .button b => .button (t.button b)
  | .selectMenu m => .selectMenu (t.menu m)
  | .textSection ⟨i, xs, x⟩ => .textSection ⟨i, Component.retouchAll t xs, Component.retouch t x⟩
  | .container ⟨i, c, s, xs⟩ => .container ⟨i, c, s, Component.retouchAll t xs⟩
  | .textInput x => .textInput x
  | .textDisplay x => .textDisplay x
  | .thumbnail x => .thumbnail x
  | .mediaGallery x => .mediaGallery x
  | .file x => .file x
  | .separator x => .separator x
def Component.retouchAll (t : Touch) : List Component → List Component
  | [] => []
  | x :: xs => Component.retouch t x :: Component.retouchAll t xs
end

/-- a tree with its buttons and menus touched up -/
def ModalComponent.retouch (t : Touch) : ModalComponent → ModalComponent
  | .actionRow row => .actionRow { row with components := Component.retouchAll t row.components }
  | .label ⟨i, l, d, x⟩ => .label ⟨i, l, d, ModalComponent.retouch t x⟩
  | .selectMenu m => .selectMenu (t.menu m)
  | .textInput x => .textInput x
  | .textDisplay x => .textDisplay x
  | .fileUpload x => .fileUpload x

theorem Component.retouchAll_eq_map (t : Touch) (xs : List Component) :
    Component.retouchAll t xs = xs.map (Component.retouch t) := by
  induction xs with
  | nil => rfl
  | cons x xs ih => rw [Component.retouchAll, ih, List.map_cons]

section Laws

variable {t : Touch}

mutual
/-- a silent touch makes no difference to what is written -/
theorem Component.encode_retouch (h : t.Silent) : (c : Component) → (c.retouch t).encode = c.encode
  | .actionRow ⟨i, xs⟩ => by
    simp only [Component.retouch, Component.encode, Component.encodeAll_retouchAll h xs]
    rfl
  | .button b => by simp only [Component.retouch, Component.encode, h.button]
  | .selectMenu m => by simp only [Component.retouch, Component.encode, h.menu, h.kind]
  | .textSection ⟨i, xs, x⟩ => by
    simp only [Component.retouch, Component.encode, Component.encodeAll_retouchAll h xs, Component.encode_retouch h x]
    rfl
  | .container ⟨i, c, s, xs⟩ => by
    simp only [Component.retouch, Component.encode, Component.encodeAll_retouchAll h xs]
    rfl
  | .textInput _ | .textDisplay _ | .thumbnail _ | .mediaGallery _ | .file _ | .separator _ => rfl
theorem Component.encodeAll_retouchAll (h : t.Silent) :
    (xs : List Component) → Component.encodeAll (Component.retouchAll t xs) = Component.encodeAll xs
  | [] => rfl
  | x :: xs => by
    simp only [Component.retouchAll, Component.encodeAll, Component.encode_retouch h x,
      Component.encodeAll_retouchAll h xs]
end

theorem ModalComponent.encode_retouch (h : t.Silent) : (c : ModalComponent) → (c.retouch t).encode = c.encode
  | .actionRow row => by
    simp only [ModalComponent.retouch, ModalComponent.encode, Component.encodeAll_retouchAll h]
    rfl
  | .label ⟨i, l, d, x⟩ => by
    simp only [ModalComponent.retouch, ModalComponent.encode, ModalComponent.encode_retouch h x]
    rfl
  | .selectMenu m => by simp only [ModalComponent.retouch, ModalComponent.encode, h.menu, h.kind]
  | .textInput _ | .textDisplay _ | .fileUpload _ => rfl

mutual
theorem Component.canonical_retouch (h : ∀ m, (t.menu m).Canonical) : (c : Component) → (c.retouch t).Canonical
  | .actionRow ⟨_, xs⟩ => Component.allCanonical_retouchAll h xs
  | .selectMenu m => h m
  | .textSection ⟨_, xs, x⟩ => ⟨Component.allCanonical_retouchAll h xs, Component.canonical_retouch h x⟩
  | .container ⟨_, _, _, xs⟩ => Component.allCanonical_retouchAll h xs
  | .button _ | .textInput _ | .textDisplay _ | .thumbnail _ | .mediaGallery _ | .file _ | .separator _ => trivial
theorem Component.allCanonical_retouchAll (h : ∀ m, (t.menu m).Canonical) :
    (xs : List Component) → Component.AllCanonical (Component.retouchAll t xs)
  | [] => trivial
  | x :: xs => ⟨Component.canonical_retouch h x, Component.allCanonical_retouchAll h xs⟩
end

theorem ModalComponent.canonical_retouch (h : ∀ m, (t.menu m).Canonical) :
    (c : ModalComponent) → (c.retouch t).Canonical
  | .actionRow row => Component.allCanonical_retouchAll h row.components
  | .label ⟨_, _, _, x⟩ => ModalComponent.canonical_retouch h x
  | .selectMenu m => h m
  | .textInput _ | .textDisplay _ | .fileUpload _ => trivial

end Laws

/-! ## Filled in styles -/

/-- the touch, and unset button styles filled in behind it -/
def Touch.styled (t : Touch) : Touch := { t with button := fun b => (t.button b).withDefaultStyle }

mutual
/-- filling in styles is one touch more -/
theorem Component.withDefaultStyles_retouch (t : Touch) :
    (c : Component) → (c.retouch t).withDefaultStyles = c.retouch t.styled
  | .actionRow ⟨i, xs⟩ => by
    simp only [Component.retouch, Component.withDefaultStyles, Component.withDefaultStylesAll_retouchAll t xs]
  | .textSection ⟨i, xs, x⟩ => by
    simp only [Component.retouch, Component.withDefaultStyles, Component.withDefaultStylesAll_retouchAll t xs,
      Component.withDefaultStyles_retouch t x]
  | .container ⟨i, c, s, xs⟩ => by
    simp only [Component.retouch, Component.withDefaultStyles, Component.withDefaultStylesAll_retouchAll t xs]
  | .button _ | .selectMenu _ | .textInput _ | .textDisplay _ | .thumbnail _ | .mediaGallery _ | .file _
  | .separator _ => rfl
theorem Component.withDefaultStylesAll_retouchAll (t : Touch) : (xs : List Component) →
    Component.withDefaultStylesAll (Component.retouchAll t xs) = Component.retouchAll t.styled xs
  | [] => rfl
  | x :: xs => by
    simp only [Component.retouchAll, Component.withDefaultStylesAll, Component.withDefaultStyles_retouch t x,
      Component.withDefaultStylesAll_retouchAll t xs]
end

theorem ModalComponent.withDefaultStyles_retouch (t : Touch) :
    (c : ModalComponent) → (c.retouch t).withDefaultStyles = c.retouch t.styled
  | .actionRow row => by
    simp only [ModalComponent.retouch, ModalComponent.withDefaultStyles, Component.withDefaultStylesAll_retouchAll t]
  | .label ⟨i, l, d, x⟩ => by
    simp only [ModalComponent.retouch, ModalComponent.withDefaultStyles, ModalComponent.withDefaultStyles_retouch t x]
  | .selectMenu _ | .textInput _ | .textDisplay _ | .fileUpload _ => rfl

/-! ## Read back -/

namespace Touch

/-- every channel kind plain, and nothing else -/
def plainKinds : Touch := ⟨id, SelectMenu.plain⟩

/-- what reading makes of a tree that was written: plain channel kinds, and every style filled in -/
def readBack : Touch := plainKinds.styled

theorem silent_plainKinds : plainKinds.Silent := ⟨fun _ => rfl, SelectMenu.members_plain, fun _ => rfl⟩

end Touch

/-- every component comes back, touched up -/
theorem Component.relay_eq (c : Component) : c.relay = .ok (c.retouch .readBack) := by
  have hcanonical : (c.retouch .plainKinds).Canonical := Component.canonical_retouch SelectMenu.plain_canonical c
  rw [relay, ← Component.encode_retouch Touch.silent_plainKinds, Component.decode_encode _ hcanonical,
    Component.withDefaultStyles_retouch]
  rfl

/-- every component of a modal comes back, touched up -/
theorem ModalComponent.relay_eq (c : ModalComponent) : c.relay = .ok (c.retouch .readBack) := by
  have hcanonical : (c.retouch .plainKinds).Canonical := ModalComponent.canonical_retouch SelectMenu.plain_canonical c
  rw [relay, ← ModalComponent.encode_retouch Touch.silent_plainKinds, ModalComponent.decode_encode _ hcanonical,
    ModalComponent.withDefaultStyles_retouch]
  rfl

end InteractionKit
