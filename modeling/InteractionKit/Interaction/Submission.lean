import InteractionKit.Component.Codec
/-
What a submitted modal sends: its components with what was filled in.

- `Submission.textValues`: every text that was filled in, with the id of its input, in order.
- `Submission.value?`, `selected?`: what was filled in under one id.
-/
namespace InteractionKit

structure Submission where
  customId : String
  components : List ModalComponent
deriving DecidableEq

/-- texts with that of an input behind them, if it has one -/
def TextInput.collect (seen : List (String × String)) (t : TextInput) : List (String × String) :=
  match t.value with
  | some v => seen ++ [(t.customId, v)]
  | none => seen

/-- texts with that of a component of a message behind them, if it is a filled text input -/
def Component.collect (seen : List (String × String)) : Component → List (String × String)
  | .textInput t => t.collect seen
  | _ => seen

namespace ModalComponent

/-- texts with those filled in within a component behind them, in order -/
def collect (seen : List (String × String)) : ModalComponent → List (String × String)
  | .textInput t => t.collect seen
  | .label ⟨_, _, _, x⟩ => collect seen x
  | .actionRow row => row.components.foldl Component.collect seen
  | _ => seen

/-- the values of the menu or upload with an id, in the component or what it labels -/
def selected? (customId : String) : ModalComponent → Option (List String)
  | .selectMenu m => if m.customId = customId then some m.values else none
  | .fileUpload f => if f.customId = customId then some f.values else none
  | .label ⟨_, _, _, x⟩ => selected? customId x
  | _ => none

end ModalComponent

namespace Submission

def textValues (s : Submission) : List (String × String) := s.components.foldl ModalComponent.collect []

/-- the first text filled in under an id -/
def value? (s : Submission) (customId : String) : Option String :=
  (s.textValues.find? fun p => p.1 = customId).map Prod.snd

/-- the values of the first menu or upload with an id -/
def selected? (s : Submission) (customId : String) : Option (List String) :=
  s.components.findSome? (ModalComponent.selected? customId)

def reader : Reader Submission :=
  mk <$> .required "custom_id" Decoder.text
    <*> .required "components" (Decoder.list ModalComponent.field)

def decode : Decoder Submission := reader.decode "ModalInteractionData"

def encode (s : Submission) : Json :=
  .obj (member "custom_id" (.str s.customId) ++ member "components" (.arr (s.components.map ModalComponent.encode)))

end Submission

end InteractionKit
