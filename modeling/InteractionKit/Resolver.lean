import InteractionKit.Cache
import InteractionKit.Config
/-
From ids to what they name: local state first, then a remote source, then a stub that holds only the id.

A lookup never fails. It tells which remote calls it made, at most one.

- `Resolver.channel`, `role`, `user`.
- `CommandOption.channelValue`, `roleValue`, `userValue`: the entity that an option names.
-/
namespace InteractionKit

/-! ## Sources -/

/-- why a remote call gave nothing -/
inductive RequestError where
  | api (status : UInt16) (body route : String)
  | transport (text : String)
  | serialisation (text : String)
  | notFound (route : String)
deriving DecidableEq, Repr

def RequestError.message : RequestError → String
  | .api status body route => "Discord API error " ++ toString status.toNat ++ " on " ++ route ++ ": " ++ body
  | .transport text => "HTTP transport error: " ++ text
  | .serialisation text => "Serialisation error: " ++ text
  | .notFound route => "Not found: " ++ route

/-- a source that answers at once -/
structure LocalSource where
  channel : ChannelId → Option Channel
  role : GuildId → RoleId → Option Role
  user : UserId → Option User

/-- a source that is asked over the network -/
structure RemoteSource where
  channel : ChannelId → RequestOptions → Except RequestError Channel
  roles : GuildId → RequestOptions → Except RequestError (List Role)
  user : UserId → RequestOptions → Except RequestError User

/-- a remote call, with the options sent along -/
inductive RemoteCall where
  | channel (id : ChannelId) (options : RequestOptions)
  | roles (guild : GuildId) (options : RequestOptions)
  | user (id : UserId) (options : RequestOptions)
deriving DecidableEq

/-- an entity, and the remote calls that were made for it -/
structure Lookup (α : Type) where
  value : α
  calls : List RemoteCall
deriving DecidableEq

def Cache.source (s : Cache) : LocalSource := ⟨s.channel?, s.role?, s.user?⟩

/-! ## Lookups -/

structure Resolver where
  state : Option LocalSource
  remote : Option RemoteSource
  options : RequestOptions

namespace Resolver

/-- a resolver without sources -/
def blank : Resolver := ⟨none, none, .blank⟩

/-- a resolver that asks the remote source only if the settings allow it -/
def ofConfig (c : Config) (state : Option LocalSource) (remote : Option RemoteSource) : Resolver :=
  ⟨state, if c.resolveRemote then remote else none, c.request⟩

/-- what is known locally, else what one call gives, else a stand-in -/
def fallback {α : Type} (known : Option α) (call : Option (RemoteCall × Option α)) (stub : α) : Lookup α :=
  match known, call with
  | some a, _ => ⟨a, []⟩
  | none, none => ⟨stub, []⟩
  | none, some (c, a) => ⟨a.getD stub, [c]⟩

def channel (r : Resolver) (id : ChannelId) : Lookup Channel :=
  fallback (r.state.bind fun s => s.channel id)
    (r.remote.map fun q => (.channel id r.options, (q.channel id r.options).toOption)) (.stub id)

/-- a role of a guild; without a guild there is nowhere to look -/
def role (r : Resolver) (guild : Option GuildId) (id : RoleId) : Lookup Role :=
  match guild with
  | none => ⟨.stub id, []⟩
  | some g =>
    fallback (r.state.bind fun s => s.role g id)
      (r.remote.map fun q =>
        (.roles g r.options, (q.roles g r.options).toOption.bind fun rs => rs.find? fun x => x.id = id))
      (.stub id)

def user (r : Resolver) (id : UserId) : Lookup User :=
  fallback (r.state.bind fun s => s.user id)
    (r.remote.map fun q => (.user id r.options, (q.user id r.options).toOption)) (.stub id)

end Resolver

/-! ## Options that name entities -/

namespace CommandOption

/-- the entity that an option names, none if it holds no id -/
def entityValue {k : Resource} {α : Type} (o : CommandOption) (kind : OptionKind) (accessor : String)
    (find : Id k → Lookup α) : Except Misuse (Option (Lookup α)) :=
  o.expecting kind accessor ((idOf o.value).map find)

def channelValue (o : CommandOption) (r : Resolver) : Except Misuse (Option (Lookup Channel)) :=
  o.entityValue .channel "channel_value" r.channel

def roleValue (o : CommandOption) (r : Resolver) (guild : Option GuildId) : Except Misuse (Option (Lookup Role)) :=
  o.entityValue .role "role_value" (r.role guild)

def userValue (o : CommandOption) (r : Resolver) : Except Misuse (Option (Lookup User)) :=
  o.entityValue .user "user_value" r.user

end CommandOption

/-! ## Descriptions -/

/-- a duration in the largest unit that it fills -/
def describeDuration (ms : Nat) : String :=
  if ms = 0 then "0ns"
  else if ms < 1000 then toString ms ++ "ms"
  else
    let thousandths := (Nat.toDigits 10 (ms % 1000 + 1000)).drop 1
    let places := (thousandths.reverse.dropWhile (· = '0')).reverse
    toString (ms / 1000) ++ String.ofList (if places = [] then [] else '.' :: places) ++ "s"

/-- an optional value by its description -/
def describeOption {α : Type} (describe : α → String) : Option α → String
  | none => "None"
  | some a => "Some(" ++ describe a ++ ")"

def RequestOptions.describe (o : RequestOptions) : String :=
  "RequestOptions \x7b reason: " ++ describeOption quoted o.reason ++ ", timeout: "
    ++ describeOption describeDuration o.timeout ++ " \x7d"

def Resolver.describe (r : Resolver) : String :=
  "Resolver \x7b state: " ++ toString r.state.isSome ++ ", requester: " ++ toString r.remote.isSome ++ ", options: "
    ++ r.options.describe ++ " \x7d"

end InteractionKit
