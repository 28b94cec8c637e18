import InteractionKit.Component.Basic
/-
Components on the wire: the fields of the component with its number, `type`, in front.

The number is looked at before any field. A component is refused when it has no number, when the number stands for
nothing, when it stands for a kind of the other family, and when a field does not fit; a child that is refused refuses
its parent.

- `Component.encode`, `ModalComponent.encode`.
- `Component.decode`, `ModalComponent.decode`.
- `Component.field`, `ModalComponent.field`: a component inside a record, read from its stored form.
-/
namespace InteractionKit

/-! ## Writing -/

/-- a component's number in front of its other members -/
def ComponentKind.tag (k : ComponentKind) (ms : Members) : Json := .obj (member "type" (.int k.code) ++ ms)

mutual
def Component.encode : Component → Json
  | .actionRow ⟨i, xs⟩ => ComponentKind.actionRow.tag (ActionRow.members ⟨i, xs⟩ (Component.encodeAll xs))
  | .button b => ComponentKind.button.tag b.members
  | .selectMenu m => m.kind.componentKind.tag m.members
  | .textInput t => ComponentKind.textInput.tag t.members
  | .textSection ⟨i, xs, x⟩ =>
    ComponentKind.section.tag (TextSection.members ⟨i, xs, x⟩ (Component.encodeAll xs) (Component.encode x))
  | .textDisplay t => ComponentKind.textDisplay.tag t.members
  | .thumbnail t => ComponentKind.thumbnail.tag t.members
  | .mediaGallery g => ComponentKind.mediaGallery.tag g.members
  | .file f => ComponentKind.file.tag f.members
  | .separator s => ComponentKind.separator.tag s.members
  | .container ⟨i, c, s, xs⟩ =>
    ComponentKind.container.tag (Container.members ⟨i, c, s, xs⟩ (Component.encodeAll xs))
def Component.encodeAll : List Component → List Json
  | [] => []
  | x :: xs => Component.encode x :: Component.encodeAll xs
end

def ModalComponent.encode : ModalComponent → Json
  | .actionRow row => ComponentKind.actionRow.tag (row.members (Component.encodeAll row.components))
  | .label ⟨i, l, d, x⟩ => ComponentKind.label.tag (Label.members ⟨i, l, d, x⟩ (ModalComponent.encode x))
  | .textInput t => ComponentKind.textInput.tag t.members
  | .selectMenu m => m.kind.componentKind.tag m.members
  | .textDisplay t => ComponentKind.textDisplay.tag t.members
  | .fileUpload f => ComponentKind.fileUpload.tag f.members

/-! ## Reading -/

/-- the kind that `type` names -/
def ComponentKind.ofMembers (family : Family) (ms : Members) : Except DecodeError ComponentKind :=
  match Json.find "type" ms with
  | some (.int n, _) =>
    if 0 ≤ n ∧ n ≤ 18446744073709551615 then
      match ComponentKind.ofCode? n.toNat with
      | some k => .ok k
      | none => .error (.unknownKind family n.toNat)
    else .error (.untyped family)
  | _ => .error (.untyped family)

/-- members read as the fields of a shape -/
def Reader.decodeShape {α β : Type} (r : Reader α) (f : α → β) (ms : Members) : Except DecodeError β :=
  match r.decodeMembers ms with
  | .ok a => .ok (f a)
  | .error e => .error (.shape e)

/-- a refusal as the fault of the record around it -/
def nestError {α : Type} : Except DecodeError α → Except ReadError α
  | .ok a => .ok a
  | .error e => .error (.nested e)

namespace Component

/-- a component from its members, given how its children are read -/
def ofMembers (ms : Members) (children : Decoder (List Component)) (accessory : Decoder Component) :
    Except DecodeError Component :=
  match ComponentKind.ofMembers .message ms with
  | .error e => .error e
  | .ok kind =>
    match kind with
    | .actionRow => (ActionRow.reader children).decodeShape .actionRow ms
    | .button => Button.reader.decodeShape .button ms
    | .textSelectMenu => (SelectMenu.reader .text).decodeShape .selectMenu ms
    | .userSelectMenu => (SelectMenu.reader .user).decodeShape .selectMenu ms
    | .roleSelectMenu => (SelectMenu.reader .role).decodeShape .selectMenu ms
    | .mentionableSelectMenu => (SelectMenu.reader .mentionable).decodeShape .selectMenu ms
    | .channelSelectMenu => (SelectMenu.reader .channel).decodeShape .selectMenu ms
    | .textInput => TextInput.reader.decodeShape .textInput ms
    | .section => (TextSection.reader children accessory).decodeShape .textSection ms
    | .textDisplay => TextDisplay.reader.decodeShape .textDisplay ms
    | .thumbnail => Thumbnail.reader.decodeShape .thumbnail ms
    | .mediaGallery => MediaGallery.reader.decodeShape .mediaGallery ms
    | .file => FileDisplay.reader.decodeShape .file ms
    | .separator => Separator.reader.decodeShape .separator ms
    | .container => (Container.reader children).decodeShape .container ms
    | .label | .fileUpload => .error (.foreignKind .message kind)

mutual
/-- a component that a message may show -/
def decode : Json → Except DecodeError Component
  | .obj ms => ofMembers ms (.whole fun _ => childrenIn ms) (.whole fun _ => accessoryIn ms)
  | _ => .error (.untyped .message)
/-- the children of a component, under the first `components` -/
def childrenIn : Members → Except ReadError (List Component)
  | [] => .ok []
  | (k, v) :: r => if k = "components" then childrenOf v else childrenIn r
def childrenOf : Json → Except ReadError (List Component)
  | .arr xs => decodeAll xs
  | v => .error (.wrongType v.outline "a sequence")
/-- every child in turn, up to the first that is refused -/
def decodeAll : List Json → Except ReadError (List Component)
  | [] => .ok []
  | v :: vs =>
    match decode v with
    | .error e => .error (.nested e)
    | .ok x => (decodeAll vs).map (x :: ·)
/-- what stands beside the text of a section, under the first `accessory` -/
def accessoryIn : Members → Except ReadError Component
  | [] => .error (.missing "accessory")
  | (k, v) :: r => if k = "accessory" then nestError (decode v) else accessoryIn r
end

/-- a component inside a record, already in its stored form -/
def nested : Decoder Component := .whole fun v => nestError (decode v)

/-- a component inside a record -/
def field : Decoder Component := .whole fun v => nested v.canonical

end Component

namespace ModalComponent

/-- a component from its members, given how its child is read -/
def ofMembers (ms : Members) (child : Decoder ModalComponent) : Except DecodeError ModalComponent :=
  match ComponentKind.ofMembers .modal ms with
  | .error e => .error e
  | .ok kind =>
    match kind with
    | .actionRow => (ActionRow.reader (Decoder.list Component.nested)).decodeShape .actionRow ms
    | .label => (Label.reader child).decodeShape .label ms
    | .textInput => TextInput.reader.decodeShape .textInput ms
    | .textSelectMenu => (SelectMenu.reader .text).decodeShape .selectMenu ms
    | .userSelectMenu => (SelectMenu.reader .user).decodeShape .selectMenu ms
    | .roleSelectMenu => (SelectMenu.reader .role).decodeShape .selectMenu ms
    | .mentionableSelectMenu => (SelectMenu.reader .mentionable).decodeShape .selectMenu ms
    | .channelSelectMenu => (SelectMenu.reader .channel).decodeShape .selectMenu ms
    | .textDisplay => TextDisplay.reader.decodeShape .textDisplay ms
    | .fileUpload => FileUpload.reader.decodeShape .fileUpload ms
    | .button | .section | .thumbnail | .mediaGallery | .file | .separator | .container =>
      .error (.foreignKind .modal kind)

mutual
/-- a component that a modal may ask -/
def decode : Json → Except DecodeError ModalComponent
  | .obj ms => ofMembers ms (.whole fun _ => childIn ms)
  | _ => .error (.untyped .modal)
/-- what a label is for, under the first `component` -/
def childIn : Members → Except ReadError ModalComponent
  | [] => .error (.missing "component")
  | (k, v) :: r => if k = "component" then nestError (decode v) else childIn r
end

/-- a component inside a record -/
def field : Decoder ModalComponent := .whole fun v => nestError (decode v.canonical)

end ModalComponent

end InteractionKit
