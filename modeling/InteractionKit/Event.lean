import InteractionKit.Interaction.Basic
/-
Events of the gateway.

A payload that is a dispatch of a listed name, with data that fits the name, is the event of that name. Any other
payload is kept whole as an unknown event, so nothing is lost.

- `Payload`: what the gateway sends.
- `Event.ofPayload`: the event of a payload. `Event.name?`: the name it came under.
-/
namespace InteractionKit

structure Payload where
  op : UInt8
  data : Option Json
  sequence : Option UInt64
  name : Option String
deriving DecidableEq

/-- a role that was made or changed -/
structure RoleEvent where
  guildId : GuildId
  role : Role
deriving DecidableEq

/-- a role that was deleted -/
structure RoleRemoval where
  guildId : GuildId
  roleId : RoleId
deriving DecidableEq

/-- a member who joined or changed -/
structure MemberEvent where
  guildId : GuildId
  member : Member
deriving DecidableEq

/-- a member who left -/
structure MemberRemoval where
  guildId : GuildId
  user : User
deriving DecidableEq

inductive Event where
  | guildCreate (guild : Guild)
  | guildUpdate (guild : Guild)
  /-- the guild went offline, or was left -/
  | guildDelete (guild : LostGuild)
  | channelCreate (channel : Channel)
  | channelUpdate (channel : Channel)
  | channelDelete (channel : Channel)
  | threadCreate (channel : Channel)
  | threadUpdate (channel : Channel)
  | threadDelete (channel : Channel)
  | roleCreate (event : RoleEvent)
  | roleUpdate (event : RoleEvent)
  | roleDelete (event : RoleRemoval)
  | memberAdd (event : MemberEvent)
  | memberUpdate (event : MemberEvent)
  | memberRemove (event : MemberRemoval)
  | interactionCreate (interaction : Interaction)
  | unknown (name : Option String) (op : UInt8) (data : Option Json)
deriving DecidableEq

/-! ## JSON -/

namespace Payload

def reader : Reader Payload :=
  mk <$> .required "op" Decoder.uint8
    <*> .placed "d" Decoder.raw
    <*> .placed "s" Decoder.uint64
    <*> .placed "t" Decoder.text

def decode : Decoder Payload := reader.decode "GatewayPayload"

def encode (p : Payload) : Json :=
  .obj (member "op" (.uint8 p.op) ++ member "d" (p.data.getD .null)
    ++ member "s" ((p.sequence.map Json.uint64).getD .null) ++ member "t" ((p.name.map Json.str).getD .null))

end Payload

namespace RoleEvent

def reader : Reader RoleEvent := mk <$> .required "guild_id" Id.decode <*> .required "role" Role.decode

def decode : Decoder RoleEvent := reader.decode "RoleEvent"

def encode (e : RoleEvent) : Json := .obj (member "guild_id" e.guildId.encode ++ member "role" e.role.encode)

end RoleEvent

namespace RoleRemoval

def reader : Reader RoleRemoval := mk <$> .required "guild_id" Id.decode <*> .required "role_id" Id.decode

def decode : Decoder RoleRemoval := reader.decode "RoleDelete"

def encode (e : RoleRemoval) : Json := .obj (member "guild_id" e.guildId.encode ++ member "role_id" e.roleId.encode)

end RoleRemoval

namespace MemberEvent

def guildReader : Reader GuildId := id <$> .required "guild_id" Id.decode

/-- what is wanted where a member and the guild are read -/
def wanted : String := "struct MemberEvent"

/-- the guild first, then the fields of the member from the same object -/
def ofValue : Json → Except ReadError MemberEvent
  | .obj ms =>
    match guildReader.decodeMembers ms with
    | .error e => .error e
    | .ok g => (Member.reader.decodeMembers ms).map (mk g)
  | v => .error (.wrongType v.outline wanted)

/-- in a text the guild is read on the way, and the other members are taken up whole -/
def decode : Decoder MemberEvent where
  ofValue := ofValue
  ofDraft
    | .obj ms stop =>
      match guildReader.draftMembers (fun d => d.held?.isSome) ms stop with
      | .error e => .error e
      | .ok _ => (Decoder.whole ofValue).ofDraft (.obj ms stop)
    | .blocked _ => .error .notJson
    | .scalar v => .error (.unfit (.wrongType v.outline wanted))
    | .arr _ _ => .error (.unfit (.wrongType .list wanted))

def encode (e : MemberEvent) : Json := .obj (InteractionKit.member "guild_id" e.guildId.encode ++ e.member.members)

end MemberEvent

namespace MemberRemoval

def reader : Reader MemberRemoval := mk <$> .required "guild_id" Id.decode <*> .required "user" User.decode

def decode : Decoder MemberRemoval := reader.decode "MemberRemove"

def encode (e : MemberRemoval) : Json := .obj (member "guild_id" e.guildId.encode ++ member "user" e.user.encode)

end MemberRemoval

/-! ## Events -/

namespace Event

/-- the opcode of a dispatch, the only one that carries events -/
def dispatchOp : UInt8 := 0

/-- data read as the content of one event -/
def ofContent {α : Type} (decode : Decoder α) (f : α → Event) (v : Json) : Option Event :=
  match decode v with
  | .ok a => some (f a)
  | .error _ => none

/-- the event of a listed name with its data -/
def ofNamed? (name : String) (v : Json) : Option Event :=
  match name with
  | "GUILD_CREATE" => ofContent Guild.decode .guildCreate v
  | "GUILD_UPDATE" => ofContent Guild.decode .guildUpdate v
  | "GUILD_DELETE" => ofContent LostGuild.decode .guildDelete v
  | "CHANNEL_CREATE" => ofContent Channel.decode .channelCreate v
  | "CHANNEL_UPDATE" => ofContent Channel.decode .channelUpdate v
  | "CHANNEL_DELETE" => ofContent Channel.decode .channelDelete v
  | "THREAD_CREATE" => ofContent Channel.decode .threadCreate v
  | "THREAD_UPDATE" => ofContent Channel.decode .threadUpdate v
  | "THREAD_DELETE" => ofContent Channel.decode .threadDelete v
  | "GUILD_ROLE_CREATE" => ofContent RoleEvent.decode .roleCreate v
  | "GUILD_ROLE_UPDATE" => ofContent RoleEvent.decode .roleUpdate v
  | "GUILD_ROLE_DELETE" => ofContent RoleRemoval.decode .roleDelete v
  | "GUILD_MEMBER_ADD" => ofContent MemberEvent.decode .memberAdd v
  | "GUILD_MEMBER_UPDATE" => ofContent MemberEvent.decode .memberUpdate v
  | "GUILD_MEMBER_REMOVE" => ofContent MemberRemoval.decode .memberRemove v
  | "INTERACTION_CREATE" => ofContent Interaction.field .interactionCreate v
  | _ => none

/-- the event of a payload -/
def ofPayload (p : Payload) : Event :=
  if p.op = dispatchOp then
    match p.name, p.data with
    | some name, some v => (ofNamed? name v).getD (.unknown p.name p.op p.data)
    | _, _ => .unknown p.name p.op p.data
  else .unknown p.name p.op p.data

/-- the name that the event came under -/
def name? : Event → Option String
  | .guildCreate _ => some "GUILD_CREATE"
  | .guildUpdate _ => some "GUILD_UPDATE"
  | .guildDelete _ => some "GUILD_DELETE"
  | .channelCreate _ => some "CHANNEL_CREATE"
  | .channelUpdate _ => some "CHANNEL_UPDATE"
  | .channelDelete _ => some "CHANNEL_DELETE"
  | .threadCreate _ => some "THREAD_CREATE"
  | .threadUpdate _ => some "THREAD_UPDATE"
  | .threadDelete _ => some "THREAD_DELETE"
  | .roleCreate _ => some "GUILD_ROLE_CREATE"
  | .roleUpdate _ => some "GUILD_ROLE_UPDATE"
  | .roleDelete _ => some "GUILD_ROLE_DELETE"
  | .memberAdd _ => some "GUILD_MEMBER_ADD"
  | .memberUpdate _ => some "GUILD_MEMBER_UPDATE"
  | .memberRemove _ => some "GUILD_MEMBER_REMOVE"
  | .interactionCreate _ => some "INTERACTION_CREATE"
  | .unknown name _ _ => name

/-- the name of the form of the event -/
def form : Event → String
  | .guildCreate _ => "GuildCreate"
  | .guildUpdate _ => "GuildUpdate"
  | .guildDelete _ => "GuildDelete"
  | .channelCreate _ => "ChannelCreate"
  | .channelUpdate _ => "ChannelUpdate"
  | .channelDelete _ => "ChannelDelete"
  | .threadCreate _ => "ThreadCreate"
  | .threadUpdate _ => "ThreadUpdate"
  | .threadDelete _ => "ThreadDelete"
  | .roleCreate _ => "RoleCreate"
  | .roleUpdate _ => "RoleUpdate"
  | .roleDelete _ => "RoleDelete"
  | .memberAdd _ => "MemberAdd"
  | .memberUpdate _ => "MemberUpdate"
  | .memberRemove _ => "MemberRemove"
  | .interactionCreate _ => "InteractionCreate"
  | .unknown _ _ _ => "Unknown"

/-- what the event holds -/
def content : Event → Json
  | .guildCreate g | .guildUpdate g => g.encode
  | .guildDelete g => g.encode
  | .channelCreate c | .channelUpdate c | .channelDelete c => c.encode
  | .threadCreate c | .threadUpdate c | .threadDelete c => c.encode
  | .roleCreate e | .roleUpdate e => e.encode
  | .roleDelete e => e.encode
  | .memberAdd e | .memberUpdate e => e.encode
  | .memberRemove e => e.encode
  | .interactionCreate i => Interaction.encode i
  | .unknown name op data =>
    .obj (member "event_name" ((name.map Json.str).getD .null) ++ member "op" (.uint8 op)
      ++ member "data" (data.getD .null))

/-- the data of an unknown event, read as some type -/
def readData? {α : Type} (decode : Decoder α) : Event → Option α
  | .unknown _ _ (some v) => (decode v).toOption
  | _ => none

end Event

end InteractionKit
