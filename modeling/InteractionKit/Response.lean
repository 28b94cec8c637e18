import InteractionKit.Command
import InteractionKit.Interaction.Submission
import InteractionKit.Message
/-
Responses to interactions.

The data of a response is written without a mark of its form. It is read as the first form that fits: a modal, choices,
a message.

- `Response.pong`, `text`, `deferred`, …: the responses.
- `MessageData.content`, `addComponent`, `ephemeral`, `componentsOnly`: steps that build a message.
-/
namespace InteractionKit

inductive CallbackKind where
  | pong
  | message
  | deferredMessage
  | deferredUpdate
  | updateMessage
  | autocomplete
  | modal
deriving DecidableEq, Repr

namespace CallbackKind

def code : CallbackKind → Nat
  | .pong => 1
  | .message => 4
  | .deferredMessage => 5
  | .deferredUpdate => 6
  | .updateMessage => 7
  | .autocomplete => 8
  | .modal => 9

def ofCode? : Nat → Option CallbackKind
  | 1 => some .pong
  | 4 => some .message
  | 5 => some .deferredMessage
  | 6 => some .deferredUpdate
  | 7 => some .updateMessage
  | 8 => some .autocomplete
  | 9 => some .modal
  | _ => none

def decode : Decoder CallbackKind := Decoder.code ofCode?

def encode (k : CallbackKind) : Json := .int k.code

end CallbackKind

/-! ## Forms of data -/

/-- a modal to open -/
structure ModalData where
  customId : String
  title : String
  components : List ModalComponent
deriving DecidableEq

/-- a value to suggest -/
structure Choice where
  name : String
  value : Json
deriving DecidableEq

structure AutocompleteData where
  choices : List Choice
deriving DecidableEq

/-- a message to send, or the changes to one -/
structure MessageData where
  content : Option String
  components : Option (List Component)
  flags : Option MessageFlags
deriving DecidableEq

inductive ResponseData where
  | modal (data : ModalData)
  | autocomplete (data : AutocompleteData)
  | message (data : MessageData)
deriving DecidableEq

structure Response where
  kind : CallbackKind
  data : Option ResponseData
deriving DecidableEq

namespace ModalData

def reader : Reader ModalData :=
  mk <$> .required "custom_id" Decoder.text
    <*> .required "title" Decoder.text
    <*> .required "components" (Decoder.list ModalComponent.field)

def decode : Decoder ModalData := reader.decode "ModalCallbackData"

def encode (m : ModalData) : Json :=
  .obj (member "custom_id" (.str m.customId) ++ member "title" (.str m.title)
    ++ member "components" (.arr (m.components.map ModalComponent.encode)))

end ModalData

namespace Choice

def reader : Reader Choice := mk <$> .required "name" Decoder.text <*> .required "value" Decoder.raw

def decode : Decoder Choice := reader.decode "CommandOptionChoice"

def encode (c : Choice) : Json := .obj (member "name" (.str c.name) ++ member "value" c.value)

end Choice

namespace AutocompleteData

def reader : Reader AutocompleteData := mk <$> .required "choices" (Decoder.list Choice.decode)

def decode : Decoder AutocompleteData := reader.decode "AutocompleteCallbackData"

def encode (a : AutocompleteData) : Json := .obj (member "choices" (.arr (a.choices.map Choice.encode)))

end AutocompleteData

namespace MessageData

/-- a message with nothing set -/
def blank : MessageData := ⟨none, none, none⟩

def withContent (d : MessageData) (s : String) : MessageData := { d with content := some s }

/-- the message with one more component at its end -/
def addComponent (d : MessageData) (c : Component) : MessageData :=
  { d with components := some (d.components.getD [] ++ [c]) }

def addFlag (d : MessageData) (f : MessageFlags) : MessageData :=
  { d with flags := some (d.flags.getD .empty ∪ f) }

/-- the message for the invoking user only -/
def ephemeral (d : MessageData) : MessageData := d.addFlag .ephemeral

/-- the message laid out by its components only -/
def componentsOnly (d : MessageData) : MessageData := d.addFlag .componentsOnly

def encodeComponents (cs : List Component) : Json := .arr (cs.map Component.encode)

def reader : Reader MessageData :=
  mk <$> .optional "content" Decoder.text
    <*> .optional "components" (Decoder.list Component.field)
    <*> .optional "flags" MessageFlags.decode

def decode : Decoder MessageData := reader.decode "InteractionCallbackData"

def encode (d : MessageData) : Json :=
  .obj (memberSome "content" .str d.content ++ memberSome "components" encodeComponents d.components
    ++ memberSome "flags" MessageFlags.encode d.flags)

end MessageData

/-- one step in building a message -/
inductive MessageStep where
  | content (text : String)
  | component (c : Component)
  | ephemeral
  | componentsOnly

def MessageData.step (d : MessageData) : MessageStep → MessageData
  | .content s => d.withContent s
  | .component c => d.addComponent c
  | .ephemeral => d.ephemeral
  | .componentsOnly => d.componentsOnly

def MessageData.run (d : MessageData) (steps : List MessageStep) : MessageData := steps.foldl step d

namespace ResponseData

def name : ResponseData → String
  | .modal _ => "Modal"
  | .autocomplete _ => "Autocomplete"
  | .message _ => "Message"

def decode : Decoder ResponseData := .whole fun v =>
  match ModalData.decode v with
  | .ok d => .ok (.modal d)
  | .error _ =>
    match AutocompleteData.decode v with
    | .ok d => .ok (.autocomplete d)
    | .error _ =>
      match MessageData.decode v with
      | .ok d => .ok (.message d)
      | .error _ => .error (.noForm "InteractionResponseData")

def encode : ResponseData → Json
  | .modal d => d.encode
  | .autocomplete d => d.encode
  | .message d => d.encode

end ResponseData

/-! ## Responses -/

namespace Response

/-- the answer to a ping -/
def pong : Response := ⟨.pong, none⟩

/-- a new message -/
def message (d : MessageData) : Response := ⟨.message, some (.message d)⟩

/-- a new message of text only -/
def text (s : String) : Response := message (MessageData.blank.withContent s)

/-- changes to the message that a component is attached to -/
def update (d : MessageData) : Response := ⟨.updateMessage, some (.message d)⟩

/-- a message that is to follow later -/
def deferred (ephemeral : Bool) : Response :=
  ⟨.deferredMessage, if ephemeral then some (.message MessageData.blank.ephemeral) else none⟩

/-- no visible change -/
def deferredUpdate : Response := ⟨.deferredUpdate, none⟩

def modal (customId title : String) (components : List ModalComponent) : Response :=
  ⟨.modal, some (.modal ⟨customId, title, components⟩)⟩

/-- choices for the option the user is typing into -/
def autocomplete (choices : List Choice) : Response := ⟨.autocomplete, some (.autocomplete ⟨choices⟩)⟩

def reader : Reader Response :=
  mk <$> .required "type" CallbackKind.decode <*> .optional "data" ResponseData.decode

def decode : Decoder Response := reader.decode "InteractionResponse"

def encode (r : Response) : Json :=
  .obj (member "type" r.kind.encode ++ memberSome "data" ResponseData.encode r.data)

end Response

end InteractionKit
