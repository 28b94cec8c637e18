import InteractionKit.Access
import InteractionKit.Event
/-
Local state, kept from the events of the gateway.

Guilds are kept without their lists of channels, threads and members; those have tables of their own, which later
events keep current.

- `Cache.step`, `Cache.run`: the state after an event, after a list of them.
- `guild?`, `channel?`, `member?`, `role?`, `user?`, `channelIds`: what is known.
- `userGuildPermissions?`, `userChannelPermissions?`: what a known member may do.
-/
namespace InteractionKit

structure Cache where
  guilds : Table .guild Guild
  channels : Table .channel Channel
  /-- the channels and threads of each guild -/
  index : Table .guild (Table .channel Unit)
  /-- the members of each guild, without their users -/
  members : Table .guild (Table .user Member)
  users : Table .user User
deriving DecidableEq

namespace Cache

def empty : Cache := ⟨.empty, .empty, .empty, .empty, .empty⟩

/-! ## Changes -/

/-- keeps a channel as one of a guild -/
def putChannel (s : Cache) (g : GuildId) (c : Channel) : Cache :=
  { s with
    channels := s.channels.insert c.id { c with guildId := some g }
    index := s.index.insert g (((s.index.get? g).getD .empty).insert c.id ()) }

/-- keeps a member of a guild and the user apart; a member without a user is not kept -/
def putMember (s : Cache) (g : GuildId) (m : Member) : Cache :=
  match m.user with
  | none => s
  | some u =>
    { s with
      members := s.members.insert g (((s.members.get? g).getD .empty).insert u.id { m with user := none })
      users := s.users.insert u.id u }

/-- keeps a guild, with its channels, threads and members in their tables -/
def putGuild (s : Cache) (g : Guild) : Cache :=
  let s := (g.channels ++ g.threads).foldl (fun s c => s.putChannel g.id c) s
  let s := g.members.foldl (fun s m => s.putMember g.id m) s
  { s with guilds := s.guilds.insert g.id { g with channels := [], threads := [], members := [] } }

/-- the ids of the known channels and threads of a guild -/
def channelIds (s : Cache) (g : GuildId) : List ChannelId := ((s.index.get? g).getD .empty).keys

/-- forgets a guild, its channels and its members -/
def dropGuild (s : Cache) (g : GuildId) : Cache :=
  { s with
    guilds := s.guilds.erase g
    channels := s.channels.filterKeys fun c => c ∉ s.channelIds g
    index := s.index.erase g
    members := s.members.erase g }

/-- keeps a channel, under its guild if it names one -/
def upsertChannel (s : Cache) (c : Channel) : Cache :=
  match c.guildId with
  | some g => s.putChannel g c
  | none => { s with channels := s.channels.insert c.id c }

/-- forgets a channel, also under the guild that is named -/
def dropChannel (s : Cache) (c : Channel) : Cache :=
  let s := { s with channels := s.channels.erase c.id }
  match c.guildId with
  | some g => { s with index := s.index.modify g fun ids => ids.erase c.id }
  | none => s

/-- a list of roles with the first of an id replaced, or one more at its end -/
def putRole (r : Role) : List Role → List Role
  | [] => [r]
  | q :: qs => if q.id = r.id then r :: qs else q :: putRole r qs

def upsertRole (s : Cache) (e : RoleEvent) : Cache :=
  { s with guilds := s.guilds.modify e.guildId fun g => { g with roles := putRole e.role g.roles } }

def dropRole (s : Cache) (e : RoleRemoval) : Cache :=
  { s with guilds := s.guilds.modify e.guildId fun g => { g with roles := g.roles.filter fun r => r.id ≠ e.roleId } }

def dropMember (s : Cache) (e : MemberRemoval) : Cache :=
  { s with members := s.members.modify e.guildId fun ms => ms.erase e.user.id }

/-- marks a guild as offline, or forgets it -/
def loseGuild (s : Cache) (g : LostGuild) : Cache :=
  if g.unavailable then { s with guilds := s.guilds.modify g.id fun g => { g with unavailable := true } }
  else s.dropGuild g.id

/-- keeps who triggered an interaction: the member in a guild, else the user -/
def seeInteraction (s : Cache) (i : Interaction) : Cache :=
  match i.guildId, i.member with
  | some g, some m => s.putMember g m
  | _, _ =>
    match i.user with
    | some u => { s with users := s.users.insert u.id u }
    | none => s

def step (s : Cache) : Event → Cache
  | .guildCreate g | .guildUpdate g => s.putGuild g
  | .guildDelete g => s.loseGuild g
  | .channelCreate c | .channelUpdate c | .threadCreate c | .threadUpdate c => s.upsertChannel c
  | .channelDelete c | .threadDelete c => s.dropChannel c
  | .roleCreate e | .roleUpdate e => s.upsertRole e
  | .roleDelete e => s.dropRole e
  | .memberAdd e | .memberUpdate e => s.putMember e.guildId e.member
  | .memberRemove e => s.dropMember e
  | .interactionCreate i => s.seeInteraction i
  | .unknown _ _ _ => s

def run (s : Cache) (es : List Event) : Cache := es.foldl step s

/-! ## Queries -/

def guild? (s : Cache) (g : GuildId) : Option Guild := s.guilds.get? g

def channel? (s : Cache) (c : ChannelId) : Option Channel := s.channels.get? c

def user? (s : Cache) (u : UserId) : Option User := s.users.get? u

/-- a member, without the user -/
def member? (s : Cache) (g : GuildId) (u : UserId) : Option Member := (s.members.get? g).bind fun ms => ms.get? u

def role? (s : Cache) (g : GuildId) (r : RoleId) : Option Role := (s.guild? g).bind fun g => g.role? r

/-- a user's place in a known guild; an owner needs no membership -/
def seat? (s : Cache) (g : Guild) (gid : GuildId) (u : UserId) : Option Seat :=
  if u = g.ownerId then some ⟨g, u, []⟩ else (s.member? gid u).map fun m => ⟨g, u, m.roles⟩

/-- the channel whose overwrites count: the channel itself, or the one that a thread is in -/
def governing? (s : Cache) (c : Channel) : Option Channel :=
  if c.isThread then c.parentId.bind s.channel? else some c

def userGuildPermissions? (s : Cache) (gid : GuildId) (u : UserId) : Option Permissions := do
  let g ← s.guild? gid
  let seat ← s.seat? g gid u
  return seat.inGuild

def userChannelPermissions? (s : Cache) (u : UserId) (cid : ChannelId) : Option Permissions := do
  let c ← s.channel? cid
  let c ← s.governing? c
  let gid ← c.guildId
  let g ← s.guild? gid
  let seat ← s.seat? g gid u
  return seat.inChannel c

end Cache

end InteractionKit
