import InteractionKit.Permissions
import InteractionKit.Id
/-
Roles and their order.

The role whose id is the guild's id is held by everyone. Roles rank by position; of two at one position the older, with
the lower id, ranks higher.
-/
namespace InteractionKit

/-- the colors of a gradient -/
structure RoleColors where
  primary : UInt32
  secondary : Option UInt32
  tertiary : Option UInt32
deriving DecidableEq

structure Role where
  id : RoleId
  name : String
  /-- rank; higher positions come first -/
  position : Int64
  permissions : Permissions
  color : UInt32
  colors : Option RoleColors
  hoist : Bool
  managed : Bool
  mentionable : Bool
  icon : Option String
  unicodeEmoji : Option String
  flags : UInt64
deriving DecidableEq

namespace RoleColors

def reader : Reader RoleColors :=
  mk <$> .required "primary_color" Decoder.uint32
    <*> .optional "secondary_color" Decoder.uint32
    <*> .optional "tertiary_color" Decoder.uint32

def decode : Decoder RoleColors := reader.decode "RoleColors"

def encode (c : RoleColors) : Json :=
  .obj (member "primary_color" (.uint32 c.primary) ++ memberSome "secondary_color" Json.uint32 c.secondary
    ++ memberSome "tertiary_color" Json.uint32 c.tertiary)

end RoleColors

namespace Role

/-- a role of which only the id is known -/
def stub (id : RoleId) : Role := ⟨id, "", 0, .empty, 0, none, false, false, false, none, none, 0⟩

def mention (r : Role) : String := "<@&" ++ r.id.text ++ ">"

/-- the order of rank -/
def compare (a b : Role) : Ordering :=
  (Ord.compare a.position.toInt b.position.toInt).then (b.id.compare a.id)

/-- the order of rank, where two roles might have no order; every two have one -/
def partialCompare? (a b : Role) : Option Ordering := some (a.compare b)

/-- whether `b` ranks at least as high as `a` -/
def le (a b : Role) : Bool := a.compare b != .gt

/-- the roles from the lowest rank to the highest, equals in their given order -/
def sort (rs : List Role) : List Role := rs.mergeSort le

/-- the highest of some roles; of equals the last -/
def highest? : List Role → Option Role
  | [] => none
  | r :: rs => some (rs.foldl (fun a b => if a.le b then b else a) r)

def reader : Reader Role :=
  mk <$> .required "id" Id.decode
    <*> .defaulted "name" "" Decoder.text
    <*> .defaulted "position" 0 Decoder.int64
    <*> .defaulted "permissions" .empty Permissions.decode
    <*> .defaulted "color" 0 Decoder.uint32
    <*> .optional "colors" RoleColors.decode
    <*> .defaulted "hoist" false Decoder.flag
    <*> .defaulted "managed" false Decoder.flag
    <*> .defaulted "mentionable" false Decoder.flag
    <*> .optional "icon" Decoder.text
    <*> .optional "unicode_emoji" Decoder.text
    <*> .defaulted "flags" 0 Decoder.uint64

def decode : Decoder Role := reader.decode "Role"

def encode (r : Role) : Json :=
  .obj (member "id" r.id.encode ++ member "name" (.str r.name) ++ member "position" (.int64 r.position)
    ++ member "permissions" r.permissions.encode ++ member "color" (.uint32 r.color)
    ++ memberSome "colors" RoleColors.encode r.colors ++ member "hoist" (.bool r.hoist)
    ++ member "managed" (.bool r.managed) ++ member "mentionable" (.bool r.mentionable)
    ++ memberSome "icon" .str r.icon ++ memberSome "unicode_emoji" .str r.unicodeEmoji
    ++ member "flags" (.uint64 r.flags))

end Role

end InteractionKit
