import InteractionKit.Json.Record
/-
Permission sets: 64 flags, fifty of them named. Unnamed flags are carried along.

On the wire a set is the decimal text of its bits; a signed or unsigned integer of 64 bits is read as well, quoted or
not.

- `Permission`: the named flags, with their bits.
- `Permissions`: sets of flags, with union, difference and inclusion.
- `Permissions.all`, `allChannel`, `allText`, `allVoice`: the composite sets.
-/
namespace InteractionKit

/-- a named permission -/
inductive Permission where
  | createInstantInvite
  | kickMembers
  | banMembers
  | administrator
  | manageChannels
  | manageGuild
  | addReactions
  | viewAuditLog
  | prioritySpeaker
  | stream
  | viewChannel
  | sendMessages
  | sendTtsMessages
  | manageMessages
  | embedLinks
  | attachFiles
  | readMessageHistory
  | mentionEveryone
  | useExternalEmojis
  | viewGuildInsights
  | connect
  | speak
  | muteMembers
  | deafenMembers
  | moveMembers
  | useVad
  | changeNickname
  | manageNicknames
  | manageRoles
  | manageWebhooks
  | manageGuildExpressions
  | useApplicationCommands
  | requestToSpeak
  | manageEvents
  | manageThreads
  | createPublicThreads
  | createPrivateThreads
  | useExternalStickers
  | sendMessagesInThreads
  | useEmbeddedActivities
  | moderateMembers
  | viewCreatorMonetizationAnalytics
  | useSoundboard
  | createGuildExpressions
  | createEvents
  | useExternalSounds
  | sendVoiceMessages
  | sendPolls
  | useExternalApps
  | pinMessages
deriving DecidableEq, Repr

namespace Permission

/-- the place of the flag in the set -/
def bit : Permission → Nat
  | .createInstantInvite => 0
  | .kickMembers => 1
  | .banMembers => 2
  | .administrator => 3
  | .manageChannels => 4
  | .manageGuild => 5
  | .addReactions => 6
  | .viewAuditLog => 7
  | .prioritySpeaker => 8
  | .stream => 9
  | .viewChannel => 10
  | .sendMessages => 11
  | .sendTtsMessages => 12
  | .manageMessages => 13
  | .embedLinks => 14
  | .attachFiles => 15
  | .readMessageHistory => 16
  | .mentionEveryone => 17
  | .useExternalEmojis => 18
  | .viewGuildInsights => 19
  | .connect => 20
  | .speak => 21
  | .muteMembers => 22
  | .deafenMembers => 23
  | .moveMembers => 24
  | .useVad => 25
  | .changeNickname => 26
  | .manageNicknames => 27
  | .manageRoles => 28
  | .manageWebhooks => 29
  | .manageGuildExpressions => 30
  | .useApplicationCommands => 31
  | .requestToSpeak => 32
  | .manageEvents => 33
  | .manageThreads => 34
  | .createPublicThreads => 35
  | .createPrivateThreads => 36
  | .useExternalStickers => 37
  | .sendMessagesInThreads => 38
  | .useEmbeddedActivities => 39
  | .moderateMembers => 40
  | .viewCreatorMonetizationAnalytics => 41
  | .useSoundboard => 42
  | .createGuildExpressions => 43
  | .createEvents => 44
  | .useExternalSounds => 45
  | .sendVoiceMessages => 46
  | .sendPolls => 49
  | .useExternalApps => 50
  | .pinMessages => 51

def name : Permission → String
  | .createInstantInvite => "CREATE_INSTANT_INVITE"
  | .kickMembers => "KICK_MEMBERS"
  | .banMembers => "BAN_MEMBERS"
  | .administrator => "ADMINISTRATOR"
  | .manageChannels => "MANAGE_CHANNELS"
  | .manageGuild => "MANAGE_GUILD"
  | .addReactions => "ADD_REACTIONS"
  | .viewAuditLog => "VIEW_AUDIT_LOG"
  | .prioritySpeaker => "PRIORITY_SPEAKER"
  | .stream => "STREAM"
  | .viewChannel => "VIEW_CHANNEL"
  | .sendMessages => "SEND_MESSAGES"
  | .sendTtsMessages => "SEND_TTS_MESSAGES"
  | .manageMessages => "MANAGE_MESSAGES"
  | .embedLinks => "EMBED_LINKS"
  | .attachFiles => "ATTACH_FILES"
  | .readMessageHistory => "READ_MESSAGE_HISTORY"
  | .mentionEveryone => "MENTION_EVERYONE"
  | .useExternalEmojis => "USE_EXTERNAL_EMOJIS"
  | .viewGuildInsights => "VIEW_GUILD_INSIGHTS"
  | .connect => "CONNECT"
  | .speak => "SPEAK"
  | .muteMembers => "MUTE_MEMBERS"
  | .deafenMembers => "DEAFEN_MEMBERS"
  | .moveMembers => "MOVE_MEMBERS"
  | .useVad => "USE_VAD"
  | .changeNickname => "CHANGE_NICKNAME"
  | .manageNicknames => "MANAGE_NICKNAMES"
  | .manageRoles => "MANAGE_ROLES"
  | .manageWebhooks => "MANAGE_WEBHOOKS"
  | .manageGuildExpressions => "MANAGE_GUILD_EXPRESSIONS"
  | .useApplicationCommands => "USE_APPLICATION_COMMANDS"
  | .requestToSpeak => "REQUEST_TO_SPEAK"
  | .manageEvents => "MANAGE_EVENTS"
  | .manageThreads => "MANAGE_THREADS"
  | .createPublicThreads => "CREATE_PUBLIC_THREADS"
  | .createPrivateThreads => "CREATE_PRIVATE_THREADS"
  | .useExternalStickers => "USE_EXTERNAL_STICKERS"
  | .sendMessagesInThreads => "SEND_MESSAGES_IN_THREADS"
  | .useEmbeddedActivities => "USE_EMBEDDED_ACTIVITIES"
  | .moderateMembers => "MODERATE_MEMBERS"
  | .viewCreatorMonetizationAnalytics => "VIEW_CREATOR_MONETIZATION_ANALYTICS"
  | .useSoundboard => "USE_SOUNDBOARD"
  | .createGuildExpressions => "CREATE_GUILD_EXPRESSIONS"
  | .createEvents => "CREATE_EVENTS"
  | .useExternalSounds => "USE_EXTERNAL_SOUNDS"
  | .sendVoiceMessages => "SEND_VOICE_MESSAGES"
  | .sendPolls => "SEND_POLLS"
  | .useExternalApps => "USE_EXTERNAL_APPS"
  | .pinMessages => "PIN_MESSAGES"

/-- every named permission, in the order of the bits -/
def every : List Permission :=
  [.createInstantInvite, .kickMembers, .banMembers, .administrator, .manageChannels, .manageGuild, .addReactions,
   .viewAuditLog, .prioritySpeaker, .stream, .viewChannel, .sendMessages, .sendTtsMessages, .manageMessages,
   .embedLinks, .attachFiles, .readMessageHistory, .mentionEveryone, .useExternalEmojis, .viewGuildInsights,
   .connect, .speak, .muteMembers, .deafenMembers, .moveMembers, .useVad, .changeNickname, .manageNicknames,
   .manageRoles, .manageWebhooks, .manageGuildExpressions, .useApplicationCommands, .requestToSpeak,
   .manageEvents, .manageThreads, .createPublicThreads, .createPrivateThreads, .useExternalStickers,
   .sendMessagesInThreads, .useEmbeddedActivities, .moderateMembers, .viewCreatorMonetizationAnalytics,
   .useSoundboard, .createGuildExpressions, .createEvents, .useExternalSounds, .sendVoiceMessages, .sendPolls,
   .useExternalApps, .pinMessages]

theorem mem_every (p : Permission) : p ∈ every := by cases p <;> decide

theorem bit_lt (p : Permission) : p.bit < 64 := by cases p <;> decide

end Permission

/-- a set of permissions, by its 64 bits -/
structure Permissions where
  bits : BitVec 64
deriving DecidableEq, Repr

namespace Permissions

def empty : Permissions := ⟨0⟩

def ofNat (n : Nat) : Permissions := ⟨BitVec.ofNat 64 n⟩

def single (p : Permission) : Permissions := ⟨BitVec.twoPow 64 p.bit⟩

def union (a b : Permissions) : Permissions := ⟨a.bits ||| b.bits⟩

def inter (a b : Permissions) : Permissions := ⟨a.bits &&& b.bits⟩

/-- the flags of `a` that are not in `b` -/
def diff (a b : Permissions) : Permissions := ⟨a.bits &&& ~~~b.bits⟩

instance : Union Permissions := ⟨union⟩

instance : Inter Permissions := ⟨inter⟩

instance : SDiff Permissions := ⟨diff⟩

/-- whether every flag of `b` is in `a` -/
def contains (a b : Permissions) : Bool := a.bits &&& b.bits = b.bits

def isEmpty (a : Permissions) : Bool := a.bits = 0

def has (a : Permissions) (p : Permission) : Bool := a.contains (single p)

def ofList (ps : List Permission) : Permissions := ps.foldl (fun a p => a ∪ single p) empty

/-- the union of the sets of a list -/
def unions (as : List Permissions) : Permissions := as.foldl (· ∪ ·) empty

/-! ## Composite sets -/

/-- what a text channel has permissions for -/
def allText : Permissions :=
  ofList [.viewChannel, .sendMessages, .sendTtsMessages, .manageMessages, .embedLinks, .attachFiles,
    .readMessageHistory, .mentionEveryone]

/-- what a voice channel has permissions for -/
def allVoice : Permissions :=
  ofList [.viewChannel, .connect, .speak, .muteMembers, .deafenMembers, .moveMembers, .useVad, .prioritySpeaker]

/-- what any channel has permissions for -/
def allChannel : Permissions :=
  allText ∪ allVoice ∪
    ofList [.createInstantInvite, .manageRoles, .manageChannels, .addReactions, .viewAuditLog]

/-- what an owner and an administrator hold -/
def all : Permissions :=
  allChannel ∪
    ofList [.kickMembers, .banMembers, .manageGuild, .administrator, .manageWebhooks, .manageGuildExpressions]

/-- every named permission -/
def known : Permissions := ofList Permission.every

/-! ## Text and JSON -/

def text (a : Permissions) : String := toString a.bits.toNat

/-- the set of the bits of a word, whether they have a name or not -/
def ofWord (w : UInt64) : Permissions := ⟨w.toBitVec⟩

/-- an integer as an unsigned word, if it is not negative -/
def unsignedWord? (n : Int) : Option UInt64 :=
  if 0 ≤ n ∧ n ≤ 18446744073709551615 then some (UInt64.ofNat n.toNat) else none

/-- a negative integer as a signed word, whose bits are taken as they are -/
def signedWord? (n : Int) : Option UInt64 :=
  if -9223372036854775808 ≤ n ∧ n < 0 then some (Int64.ofInt n).toUInt64 else none

/-- an integer comes as a signed word only if it is negative -/
def ofInt? (n : Int) : Option Permissions := ((unsignedWord? n).or (signedWord? n)).map ofWord

/-- the text of an unsigned word, or else that of a signed one, whose bits are taken as they are -/
def parseWord (s : String) : Except IntegerError UInt64 :=
  match readNatural 18446744073709551615 s.toList with
  | .ok n => .ok (UInt64.ofNat n)
  | .error _ =>
    (readInteger 9223372036854775808 9223372036854775807 s.toList).map fun n => (Int64.ofInt n).toUInt64

def parse? (s : String) : Option Permissions := (parseWord s).toOption.map ofWord

def encode (a : Permissions) : Json := .str a.text

/-- what is wanted where a permission set is read -/
def wanted : String := "a permission integer, optionally quoted"

def decode : Decoder Permissions := .scalar wanted fun
  | .int n =>
    match ofInt? n with
    | some a => .ok a
    | none => .error (.wrongType (.integer n) wanted)
  | .str s =>
    match parse? s with
    | some a => .ok a
    | none => .error (.notPermissions s)
  | v => .error (.wrongType v.outline wanted)

/-- the names of the known flags in the set, in the order of the bits -/
def names (a : Permissions) : List String := (Permission.every.filter a.has).map Permission.name

end Permissions

end InteractionKit
