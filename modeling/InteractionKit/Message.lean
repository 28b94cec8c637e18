import InteractionKit.Component.Codec
import InteractionKit.User
/-
Messages, as far as components need them, and their flags.
-/
namespace InteractionKit

/-- the flags of a message or a response, by their 64 bits -/
structure MessageFlags where
  bits : BitVec 64
deriving DecidableEq, Repr

namespace MessageFlags

def empty : MessageFlags := ⟨0⟩

/-- only the invoking user sees the message -/
def ephemeral : MessageFlags := ⟨BitVec.twoPow 64 6⟩

/-- the message consists of components only -/
def componentsOnly : MessageFlags := ⟨BitVec.twoPow 64 15⟩

def union (a b : MessageFlags) : MessageFlags := ⟨a.bits ||| b.bits⟩

instance : Union MessageFlags := ⟨union⟩

def decode : Decoder MessageFlags := (fun n => ⟨n.toBitVec⟩) <$> Decoder.uint64

def encode (f : MessageFlags) : Json := .int f.bits.toNat

end MessageFlags

/-- the message that a component was attached to -/
structure Message where
  id : Id .message
  channelId : ChannelId
  guildId : Option GuildId
  author : User
  content : String
  components : List Component
  flags : Option MessageFlags
deriving DecidableEq

namespace Message

def reader : Reader Message :=
  mk <$> .required "id" Id.decode
    <*> .required "channel_id" Id.decode
    <*> .optional "guild_id" Id.decode
    <*> .required "author" User.decode
    <*> .defaulted "content" "" Decoder.text
    <*> .defaulted "components" [] (Decoder.list Component.field)
    <*> .optional "flags" MessageFlags.decode

def decode : Decoder Message := reader.decode "Message"

def encode (m : Message) : Json :=
  .obj (member "id" m.id.encode ++ member "channel_id" m.channelId.encode ++ memberSome "guild_id" Id.encode m.guildId
    ++ member "author" m.author.encode ++ member "content" (.str m.content)
    ++ memberList "components" Component.encode m.components ++ memberSome "flags" MessageFlags.encode m.flags)

end Message

end InteractionKit
