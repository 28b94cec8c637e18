import InteractionKit.Id
/-
Users.

A discriminator is a number of the older naming scheme, zero for users who have none. It is written as text of at least
four digits.
-/
namespace InteractionKit

structure User where
  id : UserId
  name : String
  discriminator : UInt16
  globalName : Option String
  avatar : Option String
  bot : Bool
  system : Bool
deriving DecidableEq

namespace User

/-- a user of whom only the id is known -/
def stub (id : UserId) : User := ⟨id, "", 0, none, none, false, false⟩

/-- a number in at least four digits -/
def fourDigits (n : UInt16) : String :=
  let ds := Nat.toDigits 10 n.toNat
  String.ofList (List.replicate (4 - ds.length) '0' ++ ds)

def avatarUrl (u : User) : Option String :=
  u.avatar.map fun hash => "https://cdn.discordapp.com/avatars/" ++ u.id.text ++ "/" ++ hash ++ ".png"

/-- the name, with the discriminator of a user who has one -/
def tag (u : User) : String := if u.discriminator = 0 then u.name else u.name ++ "#" ++ fourDigits u.discriminator

def mention (u : User) : String := "<@" ++ u.id.text ++ ">"

/-- a discriminator, as a number or as its text -/
def decodeDiscriminator : Decoder UInt16 := .whole fun
  | .str s =>
    match readNatural 65535 s.toList with
    | .ok n => .ok (UInt16.ofNat n)
    | .error e => .error (.notInteger e)
  | v =>
    match Decoder.uint16 v with
    | .ok n => .ok n
    | .error _ => .error (.noForm "Raw")

def reader : Reader User :=
  mk <$> .required "id" Id.decode
    <*> .defaulted "username" "" Decoder.text
    <*> .defaulted "discriminator" 0 decodeDiscriminator
    <*> .optional "global_name" Decoder.text
    <*> .optional "avatar" Decoder.text
    <*> .defaulted "bot" false Decoder.flag
    <*> .defaulted "system" false Decoder.flag

def decode : Decoder User := reader.decode "User"

def encode (u : User) : Json :=
  .obj (member "id" u.id.encode ++ member "username" (.str u.name)
    ++ member "discriminator" (.str (fourDigits u.discriminator))
    ++ memberSome "global_name" .str u.globalName ++ memberSome "avatar" .str u.avatar
    ++ member "bot" (.bool u.bot) ++ member "system" (.bool u.system))

end User

end InteractionKit
