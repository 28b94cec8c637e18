import InteractionKit.Calendar
import InteractionKit.Command
import InteractionKit.Interaction.Selection
import InteractionKit.Interaction.Submission
import InteractionKit.Message
/-
Interactions: a command invoked or typed, a component used, a modal submitted, or a ping.

The kind alone decides how `data` is read. Data of a ping, or of a kind without a name, is passed over.

- `Interaction.decode`, `encode`.
- `InteractionData.decodeAs`: the data of a kind.
- `Interaction.author?`: who triggered it, in a guild or in private.
- `createdAt`, `responseDeadline`, `tokenExpiresAt`: instants of a calendar, from the id.
-/
namespace InteractionKit

/-! ## Kinds -/

inductive InteractionKind where
  | ping
  | command
  | component
  | autocomplete
  | modalSubmit
  | unknown (code : UInt16)
deriving DecidableEq, Repr

namespace InteractionKind

def ofCode (n : UInt16) : InteractionKind :=
  match n.toNat with
  | 1 => .ping
  | 2 => .command
  | 3 => .component
  | 4 => .autocomplete
  | 5 => .modalSubmit
  | _ => .unknown n

def code : InteractionKind → UInt16
  | .ping => 1
  | .command => 2
  | .component => 3
  | .autocomplete => 4
  | .modalSubmit => 5
  | .unknown n => n

/-- the name of the kind, one for all that have none of their own -/
def family : InteractionKind → String
  | .ping => "Ping"
  | .command => "ApplicationCommand"
  | .component => "MessageComponent"
  | .autocomplete => "ApplicationCommandAutocomplete"
  | .modalSubmit => "ModalSubmit"
  | .unknown _ => "Unknown"

/-- the name of the kind, with the number of one that has none -/
def name : InteractionKind → String
  | .unknown n => "Unknown(" ++ toString n.toNat ++ ")"
  | k => k.family

def decode : Decoder InteractionKind := ofCode <$> Decoder.uint16

def encode (k : InteractionKind) : Json := .uint16 k.code

end InteractionKind

/-! ## Data -/

inductive InteractionData where
  | command (data : CommandData)
  | component (data : ComponentData)
  | modal (data : Submission)
deriving DecidableEq

namespace InteractionData

def name : InteractionData → String
  | .command _ => "ApplicationCommand"
  | .component _ => "MessageComponent"
  | .modal _ => "ModalSubmit"

def encode : InteractionData → Json
  | .command d => d.encode
  | .component d => d.encode
  | .modal d => d.encode

/-- a value read as one form of data -/
def ofForm {α : Type} (decode : Decoder α) (f : α → InteractionData) (v : Json) :
    Except DecodeError (Option InteractionData) :=
  match decode v with
  | .ok d => .ok (some (f d))
  | .error e => .error (.shape e)

/-- data in the form of a kind, none for a kind without data -/
def decodeAs (kind : InteractionKind) (v : Json) : Except DecodeError (Option InteractionData) :=
  match kind with
  | .command | .autocomplete => ofForm CommandData.decode .command v
  | .component => ofForm ComponentData.decode .component v
  | .modalSubmit => ofForm Submission.decode .modal v
  | .ping | .unknown _ => .ok none

end InteractionData

/-! ## Interactions -/

/-- an interaction, its data in the form `δ` -/
structure Envelope (δ : Type) where
  id : Id .interaction
  applicationId : ApplicationId
  kind : InteractionKind
  data : Option δ
  guildId : Option GuildId
  channelId : Option ChannelId
  channel : Option Channel
  /-- who triggered it in a guild -/
  member : Option Member
  /-- who triggered it in private -/
  user : Option User
  token : String
  version : UInt8
  /-- the message that a component is attached to -/
  message : Option Message
  appPermissions : Option Permissions
  locale : Option String
  guildLocale : Option String
deriving DecidableEq

abbrev Interaction := Envelope InteractionData

namespace Interaction

/-- the fields of an interaction, its data as it came -/
def reader : Reader (Envelope Json) :=
  Envelope.mk <$> .required "id" Id.decode
    <*> .required "application_id" Id.decode
    <*> .required "type" InteractionKind.decode
    <*> .optional "data" Decoder.raw
    <*> .optional "guild_id" Id.decode
    <*> .optional "channel_id" Id.decode
    <*> .optional "channel" Channel.decode
    <*> .optional "member" Member.decode
    <*> .optional "user" User.decode
    <*> .required "token" Decoder.text
    <*> .defaulted "version" 1 Decoder.uint8
    <*> .optional "message" Message.decode
    <*> .optional "app_permissions" Permissions.decode
    <*> .optional "locale" Decoder.text
    <*> .optional "guild_locale" Decoder.text

/-- the data of an envelope in the form of its kind -/
def dataOf (e : Envelope Json) : Except DecodeError (Option InteractionData) :=
  match e.data with
  | some v => InteractionData.decodeAs e.kind v
  | none => .ok none

/-- an interaction from its stored form -/
def decode (v : Json) : Except DecodeError Interaction :=
  match reader.decode "InteractionEnvelope" v with
  | .error e => .error (.shape e)
  | .ok e =>
    match dataOf e with
    | .error e => .error e
    | .ok data =>
      .ok ⟨e.id, e.applicationId, e.kind, data, e.guildId, e.channelId, e.channel, e.member, e.user, e.token,
        e.version, e.message, e.appPermissions, e.locale, e.guildLocale⟩

/-- an interaction inside a record -/
def field : Decoder Interaction := .whole fun v => nestError (decode v.canonical)

def encode (i : Interaction) : Json :=
  .obj (InteractionKit.member "id" i.id.encode ++ InteractionKit.member "application_id" i.applicationId.encode
    ++ InteractionKit.member "type" i.kind.encode ++ memberSome "data" InteractionData.encode i.data
    ++ memberSome "guild_id" Id.encode i.guildId ++ memberSome "channel_id" Id.encode i.channelId
    ++ memberSome "channel" Channel.encode i.channel ++ memberSome "member" Member.encode i.member
    ++ memberSome "user" User.encode i.user ++ InteractionKit.member "token" (.str i.token)
    ++ InteractionKit.member "version" (.uint8 i.version) ++ memberSome "message" Message.encode i.message
    ++ memberSome "app_permissions" Permissions.encode i.appPermissions ++ memberSome "locale" .str i.locale
    ++ memberSome "guild_locale" .str i.guildLocale)

/-! ### Views -/

/-- the user behind the member, else the user -/
def author? (i : Interaction) : Option User := (i.member.bind Member.user).or i.user

def isGuild (i : Interaction) : Bool := i.guildId.isSome

def commandData? (i : Interaction) : Option CommandData :=
  match i.data with
  | some (.command d) => some d
  | _ => none

def componentData? (i : Interaction) : Option ComponentData :=
  match i.data with
  | some (.component d) => some d
  | _ => none

def modalData? (i : Interaction) : Option Submission :=
  match i.data with
  | some (.modal d) => some d
  | _ => none

/-! ### Times -/

/-- for how many seconds a first response is accepted -/
def responseSeconds : Int64 := 3

/-- for how many seconds the token works -/
def tokenSeconds : Int64 := 15 * 60

section Times

variable {τ : Type} (cal : Calendar τ) (i : Interaction)

def createdAt : Option τ := (signed? i.id.timestamp).bind cal.ofMillis?

/-- a number of seconds after the interaction was made -/
def secondsAfter (s : Int64) : Option τ := (createdAt cal i).bind fun t => cal.later? t s

/-- until when a first response is accepted -/
def responseDeadline : Option τ := secondsAfter cal i responseSeconds

/-- until when the token works -/
def tokenExpiresAt : Option τ := secondsAfter cal i tokenSeconds

end Times

end Interaction

end InteractionKit
