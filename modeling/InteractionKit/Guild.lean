import InteractionKit.Channel
import InteractionKit.Role
import InteractionKit.User
/-
Guilds and their members.

A guild is a snapshot: its roles, and as far as they are sent, its channels, threads and members.
-/
namespace InteractionKit

/-- a user's membership in a guild -/
structure Member where
  user : Option User
  nick : Option String
  roles : List RoleId
  joinedAt : Option String
  deaf : Bool
  mute : Bool
  pending : Bool
  /-- all permissions in the channel of an interaction -/
  permissions : Option Permissions
deriving DecidableEq

structure Guild where
  id : GuildId
  name : String
  ownerId : UserId
  icon : Option String
  roles : List Role
  channels : List Channel
  threads : List Channel
  members : List Member
  unavailable : Bool
deriving DecidableEq

/-- a guild that is offline, or that was left -/
structure LostGuild where
  id : GuildId
  unavailable : Bool
deriving DecidableEq

namespace Member

/-- the nickname, else the user's global name, else the user's name -/
def displayName (m : Member) : Option String :=
  match m.nick, m.user with
  | some nick, _ => some nick
  | none, some user => some (user.globalName.getD user.name)
  | none, none => none

def reader : Reader Member :=
  mk <$> .optional "user" User.decode
    <*> .optional "nick" Decoder.text
    <*> .defaulted "roles" [] (Decoder.list Id.decode)
    <*> .optional "joined_at" Decoder.text
    <*> .defaulted "deaf" false Decoder.flag
    <*> .defaulted "mute" false Decoder.flag
    <*> .defaulted "pending" false Decoder.flag
    <*> .optional "permissions" Permissions.decode

def decode : Decoder Member := reader.decode "Member"

def members (m : Member) : Members :=
  memberSome "user" User.encode m.user ++ memberSome "nick" .str m.nick
    ++ member "roles" (.arr (m.roles.map Id.encode)) ++ memberSome "joined_at" .str m.joinedAt
    ++ member "deaf" (.bool m.deaf) ++ member "mute" (.bool m.mute) ++ member "pending" (.bool m.pending)
    ++ memberSome "permissions" Permissions.encode m.permissions

def encode (m : Member) : Json := .obj m.members

end Member

namespace Guild

/-- the first role with an id -/
def role? (g : Guild) (id : RoleId) : Option Role := g.roles.find? fun r => r.id = id

/-- the role that everyone holds, whose id is the guild's -/
def everyoneRole? (g : Guild) : Option Role := g.role? g.id.cast

/-- the highest of the guild's roles that are among some ids -/
def highestRole? (g : Guild) (ids : List RoleId) : Option Role := Role.highest? (g.roles.filter fun r => r.id ∈ ids)

def reader : Reader Guild :=
  mk <$> .required "id" Id.decode
    <*> .defaulted "name" "" Decoder.text
    <*> .required "owner_id" Id.decode
    <*> .optional "icon" Decoder.text
    <*> .defaulted "roles" [] (Decoder.list Role.decode)
    <*> .defaulted "channels" [] (Decoder.list Channel.decode)
    <*> .defaulted "threads" [] (Decoder.list Channel.decode)
    <*> .defaulted "members" [] (Decoder.list Member.decode)
    <*> .defaulted "unavailable" false Decoder.flag

def decode : Decoder Guild := reader.decode "Guild"

def encode (g : Guild) : Json :=
  .obj (member "id" g.id.encode ++ member "name" (.str g.name) ++ member "owner_id" g.ownerId.encode
    ++ memberSome "icon" .str g.icon ++ member "roles" (.arr (g.roles.map Role.encode))
    ++ memberList "channels" Channel.encode g.channels ++ memberList "threads" Channel.encode g.threads
    ++ memberList "members" Member.encode g.members ++ member "unavailable" (.bool g.unavailable))

end Guild

namespace LostGuild

def reader : Reader LostGuild :=
  mk <$> .required "id" Id.decode <*> .defaulted "unavailable" false Decoder.flag

def decode : Decoder LostGuild := reader.decode "UnavailableGuild"

def encode (g : LostGuild) : Json := .obj (member "id" g.id.encode ++ member "unavailable" (.bool g.unavailable))

end LostGuild

end InteractionKit
