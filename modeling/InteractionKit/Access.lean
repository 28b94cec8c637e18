import InteractionKit.Guild
/-
What a member may do in a guild, and in one of its channels.

1. The owner holds every permission.
2. The role of everyone and the member's roles are united.
3. An administrator gets every permission.
4. The overwrites of the channel apply: of everyone, then those of the member's roles together, then the member's own.
   Each takes what it denies before it grants what it allows.
5. An administrator gets every channel permission back.

Roles without a place in the guild grant nothing, and flags without a name are carried along.

- `Seat`: a user with some roles in a guild. `Seat.inGuild`, `Seat.inChannel`.
- `channelPermissions`: the same of a member, who may come without a user.
-/
namespace InteractionKit

/-! ## Roles -/

/-- what everyone and the listed roles hold together -/
def rolePermissions (g : Guild) (roles : List RoleId) : Permissions :=
  let everyone := (g.everyoneRole?.map Role.permissions).getD .empty
  g.roles.foldl (fun a r => if roles.contains r.id then a ∪ r.permissions else a) everyone

/-- a set with all of another, if it holds the flag of administrators -/
def Permissions.raise (a b : Permissions) : Permissions := if a.has .administrator then a ∪ b else a

/-- the permissions in the guild of a member who is not its owner -/
def guildPermissions (g : Guild) (roles : List RoleId) : Permissions := (rolePermissions g roles).raise .all

/-! ## Overwrites -/

/-- takes the denied flags, then grants the allowed ones -/
def Permissions.overwrite (a : Permissions) (allow deny : Permissions) : Permissions := (a \ deny) ∪ allow

/-- a set under an overwrite, if there is one -/
def Permissions.overwriteBy (a : Permissions) : Option Overwrite → Permissions
  | none => a
  | some o => a.overwrite o.allow o.deny

/-- the first overwrite under the id of the guild -/
def everyoneOverwrite? (g : Guild) (os : List Overwrite) : Option Overwrite := os.find? fun o => o.id = g.id.cast

/-- the overwrites of some roles -/
def roleOverwrites (roles : List RoleId) (os : List Overwrite) : List Overwrite :=
  os.filter fun o => o.kind = .role ∧ o.id.cast ∈ roles

/-- the first overwrite of a user -/
def memberOverwrite? (user : UserId) (os : List Overwrite) : Option Overwrite :=
  os.find? fun o => o.kind = .member ∧ o.id = user.cast

/-- a set under the overwrites of a channel -/
def applyOverwrites (g : Guild) (os : List Overwrite) (user : Option UserId) (roles : List RoleId)
    (base : Permissions) : Permissions :=
  let a := base.overwriteBy (everyoneOverwrite? g os)
  let rs := roleOverwrites roles os
  let a := a.overwrite (.unions (rs.map Overwrite.allow)) (.unions (rs.map Overwrite.deny))
  let a := a.overwriteBy (user.bind fun u => memberOverwrite? u os)
  a.raise .allChannel

/-! ## Members -/

/-- a user who holds some roles in a guild -/
structure Seat where
  guild : Guild
  user : UserId
  roles : List RoleId

namespace Seat

def isOwner (s : Seat) : Bool := s.user = s.guild.ownerId

/-- the permissions in the guild, whatever the channel -/
def inGuild (s : Seat) : Permissions := if s.isOwner then .all else guildPermissions s.guild s.roles

/-- the permissions in a channel; for a thread, of the channel it is in -/
def inChannel (s : Seat) (c : Channel) : Permissions :=
  if s.isOwner then .all
  else applyOverwrites s.guild c.overwrites (some s.user) s.roles (guildPermissions s.guild s.roles)

end Seat

/-- the permissions of a user with some roles in a channel -/
def memberPermissions (g : Guild) (c : Channel) (user : UserId) (roles : List RoleId) : Permissions :=
  Seat.inChannel ⟨g, user, roles⟩ c

/-- the permissions of a member in a channel; without a user only those of the roles -/
def channelPermissions (g : Guild) (c : Channel) (m : Member) : Permissions :=
  match m.user with
  | some u => memberPermissions g c u.id m.roles
  | none => applyOverwrites g c.overwrites none m.roles (guildPermissions g m.roles)

end InteractionKit
