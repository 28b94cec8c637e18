import InteractionKit.Component.Field
import InteractionKit.Component.Layout
import InteractionKit.Component.Media
import InteractionKit.Component.SelectMenu
/-
Components: trees of what a message shows, and of what a modal asks.

- `Component`: everything that a message may show.
- `ModalComponent`: everything that a modal may ask or send back. Its rows hold components of messages.
- `kind`, `customId`: the number that stands for a component, and the name that its developer gave it.
- Equality of both is decidable.
-/
namespace InteractionKit

inductive Component where
  | actionRow (row : ActionRow Component)
  | button (button : Button)
  | selectMenu (menu : SelectMenu)
  | textInput (input : TextInput)
  | textSection (s : TextSection Component)
  | textDisplay (text : TextDisplay)
  | thumbnail (thumbnail : Thumbnail)
  | mediaGallery (gallery : MediaGallery)
  | file (file : FileDisplay)
  | separator (separator : Separator)
  | container (container : Container Component)

inductive ModalComponent where
  /-- the older layout: a row around one text input -/
  | actionRow (row : ActionRow Component)
  | label (label : Label ModalComponent)
  | textInput (input : TextInput)
  | selectMenu (menu : SelectMenu)
  | textDisplay (text : TextDisplay)
  | fileUpload (upload : FileUpload)

namespace Component

def kind : Component → ComponentKind
  | .actionRow _ => .actionRow
  | .button _ => .button
  | .selectMenu m => m.kind.componentKind
  | .textInput _ => .textInput
  | .textSection _ => .section
  | .textDisplay _ => .textDisplay
  | .thumbnail _ => .thumbnail
  | .mediaGallery _ => .mediaGallery
  | .file _ => .file
  | .separator _ => .separator
  | .container _ => .container

def customId : Component → Option String
  | .button b => b.customId
  | .selectMenu m => some m.customId
  | .textInput t => some t.customId
  | _ => none

/-! ## Equality -/

mutual
/-- whether two components are equal -/
def same : Component → Component → Bool
  | .actionRow ⟨i, xs⟩, .actionRow ⟨j, ys⟩ => i == j && sameAll xs ys
  | .button a, .button b => a == b
  | .selectMenu a, .selectMenu b => a == b
  | .textInput a, .textInput b => a == b
  | .textSection ⟨i, xs, x⟩, .textSection ⟨j, ys, y⟩ => i == j && sameAll xs ys && same x y
  | .textDisplay a, .textDisplay b => a == b
  | .thumbnail a, .thumbnail b => a == b
  | .mediaGallery a, .mediaGallery b => a == b
  | .file a, .file b => a == b
  | .separator a, .separator b => a == b
  | .container ⟨i, c, s, xs⟩, .container ⟨j, d, t, ys⟩ => i == j && c == d && s == t && sameAll xs ys
  | _, _ => false
def sameAll : List Component → List Component → Bool
  | [], [] => true
  | x :: xs, y :: ys => same x y && sameAll xs ys
  | _, _ => false
end

mutual
theorem same_iff : (a b : Component) → (same a b = true ↔ a = b)
  | .actionRow ⟨i, xs⟩, b => by
    cases b with
    | actionRow r => obtain ⟨j, ys⟩ := r; simp [same, sameAll_iff xs ys]
    | _ => simp [same]
  | .button _, b => by cases b <;> simp [same]
  | .selectMenu _, b => by cases b <;> simp [same]
  | .textInput _, b => by cases b <;> simp [same]
  | .textSection ⟨i, xs, x⟩, b => by
    cases b with
    | textSection s => obtain ⟨j, ys, y⟩ := s; simp [same, sameAll_iff xs ys, same_iff x y, and_assoc]
    | _ => simp [same]
  | .textDisplay _, b => by cases b <;> simp [same]
  | .thumbnail _, b => by cases b <;> simp [same]
  | .mediaGallery _, b => by cases b <;> simp [same]
  | .file _, b => by cases b <;> simp [same]
  | .separator _, b => by cases b <;> simp [same]
  | .container ⟨i, c, s, xs⟩, b => by
    cases b with
    | container k => obtain ⟨j, d, t, ys⟩ := k; simp [same, sameAll_iff xs ys, and_assoc]
    | _ => simp [same]
theorem sameAll_iff : (xs ys : List Component) → (sameAll xs ys = true ↔ xs = ys)
  | [], ys => by cases ys <;> simp [sameAll]
  | x :: xs, ys => by
    cases ys with
    | nil => simp [sameAll]
    | cons y ys => simp [sameAll, same_iff x y, sameAll_iff xs ys]
end

instance : DecidableEq Component := fun a b => decidable_of_iff _ (same_iff a b)

end Component

deriving instance DecidableEq for ActionRow

namespace ModalComponent

def kind : ModalComponent → ComponentKind
  | .actionRow _ => .actionRow
  | .label _ => .label
  | .textInput _ => .textInput
  | .selectMenu m => m.kind.componentKind
  | .textDisplay _ => .textDisplay
  | .fileUpload _ => .fileUpload

def customId : ModalComponent → Option String
  | .textInput t => some t.customId
  | .selectMenu m => some m.customId
  | .fileUpload f => some f.customId
  | _ => none

/-- whether two components of modals are equal -/
def same : ModalComponent → ModalComponent → Bool
  | .actionRow a, .actionRow b => a == b
  | .label ⟨i, l, d, x⟩, .label ⟨j, m, e, y⟩ => i == j && l == m && d == e && same x y
  | .textInput a, .textInput b => a == b
  | .selectMenu a, .selectMenu b => a == b
  | .textDisplay a, .textDisplay b => a == b
  | .fileUpload a, .fileUpload b => a == b
  | _, _ => false

theorem same_iff : (a b : ModalComponent) → (same a b = true ↔ a = b)
  | .actionRow _, b => by cases b <;> simp [same]
  | .label ⟨i, l, d, x⟩, b => by
    cases b with
    | label k => obtain ⟨j, m, e, y⟩ := k; simp [same, same_iff x y, and_assoc]
    | _ => simp [same]
  | .textInput _, b => by cases b <;> simp [same]
  | .selectMenu _, b => by cases b <;> simp [same]
  | .textDisplay _, b => by cases b <;> simp [same]
  | .fileUpload _, b => by cases b <;> simp [same]

instance : DecidableEq ModalComponent := fun a b => decidable_of_iff _ (same_iff a b)

end ModalComponent

deriving instance DecidableEq for TextSection
deriving instance DecidableEq for Container
deriving instance DecidableEq for Label

end InteractionKit
