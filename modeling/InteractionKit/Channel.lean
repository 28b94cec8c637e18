import InteractionKit.Permissions
import InteractionKit.Id
/-
Channels, threads among them, and the overwrites that change permissions inside one.

- `ChannelKind`: the kinds that have a name, and any other by its number.
- `Overwrite`: what a channel grants and takes from a role or a member.
- `Channel`: a channel as it is sent.
-/
namespace InteractionKit

/-! ## Kinds -/

inductive ChannelKind where
  | guildText
  | direct
  | guildVoice
  | group
  | guildCategory
  | guildAnnouncement
  | announcementThread
  | publicThread
  | privateThread
  | guildStageVoice
  | guildDirectory
  | guildForum
  | guildMedia
  | unknown (code : UInt16)
deriving DecidableEq, Repr

namespace ChannelKind

def ofCode (n : UInt16) : ChannelKind :=
  match n.toNat with
  | 0 => .guildText
  | 1 => .direct
  | 2 => .guildVoice
  | 3 => .group
  | 4 => .guildCategory
  | 5 => .guildAnnouncement
  | 10 => .announcementThread
  | 11 => .publicThread
  | 12 => .privateThread
  | 13 => .guildStageVoice
  | 14 => .guildDirectory
  | 15 => .guildForum
  | 16 => .guildMedia
  | _ => .unknown n

def code : ChannelKind → UInt16
  | .guildText => 0
  | .direct => 1
  | .guildVoice => 2
  | .group => 3
  | .guildCategory => 4
  | .guildAnnouncement => 5
  | .announcementThread => 10
  | .publicThread => 11
  | .privateThread => 12
  | .guildStageVoice => 13
  | .guildDirectory => 14
  | .guildForum => 15
  | .guildMedia => 16
  | .unknown n => n

def name : ChannelKind → String
  | .guildText => "GuildText"
  | .direct => "Private"
  | .guildVoice => "GuildVoice"
  | .group => "Group"
  | .guildCategory => "GuildCategory"
  | .guildAnnouncement => "GuildAnnouncement"
  | .announcementThread => "AnnouncementThread"
  | .publicThread => "PublicThread"
  | .privateThread => "PrivateThread"
  | .guildStageVoice => "GuildStageVoice"
  | .guildDirectory => "GuildDirectory"
  | .guildForum => "GuildForum"
  | .guildMedia => "GuildMedia"
  | .unknown n => "Unknown(" ++ toString n.toNat ++ ")"

def isThread : ChannelKind → Bool
  | .announcementThread | .publicThread | .privateThread => true
  | _ => false

/-- whether channels of the kind belong to a guild -/
def isGuild : ChannelKind → Bool
  | .direct | .group | .unknown _ => false
  | _ => true

/-- an unknown kind only for a number that has no name -/
def Canonical (k : ChannelKind) : Prop := ofCode k.code = k

instance (k : ChannelKind) : Decidable k.Canonical := inferInstanceAs (Decidable (ofCode k.code = k))

def decode : Decoder ChannelKind := ofCode <$> Decoder.uint16

def encode (k : ChannelKind) : Json := .uint16 k.code

end ChannelKind

/-! ## Overwrites -/

/-- whom an overwrite is for -/
inductive OverwriteKind where
  | role
  | member
  | unknown (code : UInt8)
deriving DecidableEq, Repr

namespace OverwriteKind

def ofCode (n : UInt8) : OverwriteKind :=
  match n.toNat with
  | 0 => .role
  | 1 => .member
  | _ => .unknown n

def code : OverwriteKind → UInt8
  | .role => 0
  | .member => 1
  | .unknown n => n

def name : OverwriteKind → String
  | .role => "Role"
  | .member => "Member"
  | .unknown n => "Unknown(" ++ toString n.toNat ++ ")"

/-- an unknown kind only for a number that has no name -/
def Canonical (k : OverwriteKind) : Prop := ofCode k.code = k

instance (k : OverwriteKind) : Decidable k.Canonical := inferInstanceAs (Decidable (ofCode k.code = k))

def decode : Decoder OverwriteKind := ofCode <$> Decoder.uint8

def encode (k : OverwriteKind) : Json := .uint8 k.code

end OverwriteKind

/-- what a channel grants and takes from a role or a member -/
structure Overwrite where
  /-- the id of the role or of the user -/
  id : GenericId
  kind : OverwriteKind
  allow : Permissions
  deny : Permissions
deriving DecidableEq

namespace Overwrite

def forRole (id : RoleId) (allow deny : Permissions) : Overwrite := ⟨id.cast, .role, allow, deny⟩

def forMember (id : UserId) (allow deny : Permissions) : Overwrite := ⟨id.cast, .member, allow, deny⟩

def reader : Reader Overwrite :=
  mk <$> .required "id" Id.decode
    <*> .required "type" OverwriteKind.decode
    <*> .defaulted "allow" .empty Permissions.decode
    <*> .defaulted "deny" .empty Permissions.decode

def decode : Decoder Overwrite := reader.decode "PermissionOverwrite"

def encode (o : Overwrite) : Json :=
  .obj (member "id" o.id.encode ++ member "type" o.kind.encode ++ member "allow" o.allow.encode
    ++ member "deny" o.deny.encode)

end Overwrite

/-! ## Channels -/

/-- what only a thread has -/
structure ThreadMetadata where
  archived : Bool
  /-- minutes without activity until the thread is archived -/
  autoArchiveDuration : UInt16
  archiveTimestamp : Option String
  locked : Bool
  invitable : Option Bool
deriving DecidableEq

structure Channel where
  id : ChannelId
  kind : ChannelKind
  /-- none for a direct channel, and for one listed inside its guild -/
  guildId : Option GuildId
  name : Option String
  position : Option Int32
  /-- the category of a channel, the channel of a thread -/
  parentId : Option ChannelId
  overwrites : List Overwrite
  topic : Option String
  nsfw : Bool
  /-- the creator of a thread -/
  ownerId : Option UserId
  memberCount : Option UInt32
  messageCount : Option UInt32
  threadMetadata : Option ThreadMetadata
deriving DecidableEq

namespace ThreadMetadata

def reader : Reader ThreadMetadata :=
  mk <$> .required "archived" Decoder.flag
    <*> .required "auto_archive_duration" Decoder.uint16
    <*> .optional "archive_timestamp" Decoder.text
    <*> .defaulted "locked" false Decoder.flag
    <*> .optional "invitable" Decoder.flag

def decode : Decoder ThreadMetadata := reader.decode "ThreadMetadata"

def encode (t : ThreadMetadata) : Json :=
  .obj (member "archived" (.bool t.archived) ++ member "auto_archive_duration" (.uint16 t.autoArchiveDuration)
    ++ memberSome "archive_timestamp" .str t.archiveTimestamp ++ member "locked" (.bool t.locked)
    ++ memberSome "invitable" .bool t.invitable)

end ThreadMetadata

namespace Channel

/-- a channel of which only the id is known -/
def stub (id : ChannelId) : Channel :=
  ⟨id, .guildText, none, none, none, none, [], none, false, none, none, none, none⟩

def isThread (c : Channel) : Bool := c.kind.isThread

def mention (c : Channel) : String := "<#" ++ c.id.text ++ ">"

def reader : Reader Channel :=
  mk <$> .required "id" Id.decode
    <*> .defaulted "type" .guildText ChannelKind.decode
    <*> .optional "guild_id" Id.decode
    <*> .optional "name" Decoder.text
    <*> .optional "position" Decoder.int32
    <*> .optional "parent_id" Id.decode
    <*> .defaulted "permission_overwrites" [] (Decoder.list Overwrite.decode)
    <*> .optional "topic" Decoder.text
    <*> .defaulted "nsfw" false Decoder.flag
    <*> .optional "owner_id" Id.decode
    <*> .optional "member_count" Decoder.uint32
    <*> .optional "message_count" Decoder.uint32
    <*> .optional "thread_metadata" ThreadMetadata.decode

def decode : Decoder Channel := reader.decode "Channel"

def encode (c : Channel) : Json :=
  .obj (member "id" c.id.encode ++ member "type" c.kind.encode ++ memberSome "guild_id" Id.encode c.guildId
    ++ memberSome "name" .str c.name ++ memberSome "position" Json.int32 c.position
    ++ memberSome "parent_id" Id.encode c.parentId
    ++ memberList "permission_overwrites" Overwrite.encode c.overwrites ++ memberSome "topic" .str c.topic
    ++ member "nsfw" (.bool c.nsfw) ++ memberSome "owner_id" Id.encode c.ownerId
    ++ memberSome "member_count" Json.uint32 c.memberCount ++ memberSome "message_count" Json.uint32 c.messageCount
    ++ memberSome "thread_metadata" ThreadMetadata.encode c.threadMetadata)

end Channel

end InteractionKit
