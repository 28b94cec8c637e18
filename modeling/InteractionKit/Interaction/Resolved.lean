import InteractionKit.Guild
import InteractionKit.Table
/-
The entities that an interaction names by their ids.

On the wire each table is an object under the texts of the ids. Keys that spell one id differently mean one entry, the
last of them.
-/
namespace InteractionKit

structure Resolved where
  users : Table .user User
  /-- partial members; their users are among `users` -/
  members : Table .user Member
  roles : Table .role Role
  /-- partial channels -/
  channels : Table .channel Channel
deriving DecidableEq

namespace Table

variable {k : Resource} {α : Type}

/-- the members of an object as entries, put in one by one; a key is looked at before its value -/
def ofMembers {ν ε : Type} (fault : ReadError → ε) (decode : ν → Except ε α) (t : Table k α) :
    List (String × ν) → Except ε (Table k α)
  | [] => .ok t
  | (key, v) :: r =>
    match Id.parse key with
    | .error _ => .error (fault (.wrongValue (.text key) Id.wanted))
    | .ok a =>
      match decode v with
      | .error e => .error e
      | .ok x => ofMembers fault decode (t.insert a x) r

def decode (decode : Decoder α) : Decoder (Table k α) where
  ofValue
    | .obj ms => ofMembers id decode.ofValue .empty ms
    | v => .error (.wrongType v.outline "a map")
  ofDraft
    | .obj ms stop => Decoder.upTo stop (ofMembers .unfit decode.ofDraft .empty ms)
    | .blocked _ => .error .notJson
    | .scalar v => .error (.unfit (.wrongType v.outline "a map"))
    | .arr _ _ => .error (.unfit (.wrongType .list "a map"))

def encode (encode : α → Json) (t : Table k α) : Json := .obj (t.entries.map fun e => (e.1.text, encode e.2))

/-- a member for a table, left out when the table is empty -/
def memberTable (key : String) (f : α → Json) (t : Table k α) : Members :=
  if t.isEmpty then [] else [(key, t.encode f)]

end Table

namespace Resolved

def isEmpty (r : Resolved) : Bool := r.users.isEmpty && r.members.isEmpty && r.roles.isEmpty && r.channels.isEmpty

def reader : Reader Resolved :=
  mk <$> .defaulted "users" .empty (Table.decode User.decode)
    <*> .defaulted "members" .empty (Table.decode Member.decode)
    <*> .defaulted "roles" .empty (Table.decode Role.decode)
    <*> .defaulted "channels" .empty (Table.decode Channel.decode)

def decode : Decoder Resolved := reader.decode "InteractionDataResolved"

def encode (r : Resolved) : Json :=
  .obj (r.users.memberTable "users" User.encode ++ r.members.memberTable "members" Member.encode
    ++ r.roles.memberTable "roles" Role.encode ++ r.channels.memberTable "channels" Channel.encode)

end Resolved

end InteractionKit
