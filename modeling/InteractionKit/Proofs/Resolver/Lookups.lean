import InteractionKit.Resolver
import InteractionKit.Proofs.Cache.WellKept
/-
Lookups through the tiers of a resolver.

A source is faithful if it answers only with what has the id that it was asked for. The local state is, after any events:
the cache keeps every entity under its own id, and searches the roles of a guild for the id. Of a remote source it is
asked for channels and users; among roles the lookup searches itself. Each lookup goes through the tiers in one order, so
what it gives has the id, whichever tier it is from.

- `Cache.faithful_run`: the cache is a faithful source.
- `Resolver.Tiered`: what is known, else what one call gives, else a stub.
- `Resolver.tiered_channel`, `tiered_role`, `tiered_user`: each lookup goes through the tiers.
- `lookups_faithful`: what the lookups give, and what they ask for.
-/
namespace InteractionKit

theorem eq_ok_of_toOption {ε α : Type} {x : Except ε α} {a : α} (h : x.toOption = some a) : x = .ok a := by
  cases x with
  | error e => cases h
  | ok b =>
    cases h
    rfl

/-! ## Faithful sources -/

/-- a local source that knows everything under its own id -/
structure LocalSource.Faithful (s : LocalSource) : Prop where
  channel : ∀ id c, s.channel id = some c → c.id = id
  role : ∀ g id r, s.role g id = some r → r.id = id
  user : ∀ id u, s.user id = some u → u.id = id

/-- a remote source that gives the channel or the user it is asked for, or an error -/
structure RemoteSource.Faithful (q : RemoteSource) : Prop where
  channel : ∀ id options c, q.channel id options = .ok c → c.id = id
  user : ∀ id options u, q.user id options = .ok u → u.id = id

/-- a search by id finds this id -/
theorem Role.id_of_find? {rs : List Role} {id : RoleId} {r : Role} (h : rs.find? (fun x => x.id = id) = some r) :
    r.id = id := by
  simpa using List.find?_some h

theorem Cache.id_of_role? {s : Cache} {g : GuildId} {id : RoleId} {r : Role} (h : s.role? g id = some r) :
    r.id = id := by
  obtain ⟨G, -, hr⟩ := Option.bind_eq_some_iff.1 h
  exact Role.id_of_find? hr

/-- whatever has happened, the cache is a faithful source -/
theorem Cache.faithful_run (es : List Event) : (Cache.run .empty es).source.Faithful := by
  have hkept := wellKept_empty.run es
  exact ⟨hkept.channel, fun _ _ _ => id_of_role?, hkept.user⟩

namespace Resolver

/-! ## Tiers -/

/-- a lookup that goes through its tiers: what is known, without a call; else what one call gives; else a stub -/
structure Tiered {α : Type} (known : Option α) (remote : Option RemoteSource) (call : RemoteCall)
    (answer : RemoteSource → Option α) (stub : α) (l : Lookup α) : Prop where
  hit : ∀ a, known = some a → l = ⟨a, []⟩
  miss : ∀ q, known = none → remote = some q → l = ⟨(answer q).getD stub, [call]⟩
  alone : known = none → remote = none → l = ⟨stub, []⟩

section Tiers

variable {α : Type} {known : Option α} {remote : Option RemoteSource} {call : RemoteCall}
  {answer : RemoteSource → Option α} {stub : α} {l : Lookup α}

theorem tiered_fallback : Tiered known remote call answer stub
    (fallback known (remote.map fun q => (call, answer q)) stub) where
  hit := by
    rintro a rfl
    rfl
  miss := by
    rintro q rfl rfl
    rfl
  alone := by
    rintro rfl rfl
    rfl

namespace Tiered

variable (h : Tiered known remote call answer stub l)

include h

theorem length_calls_le : l.calls.length ≤ 1 := by
  cases hk : known with
  | some a => simp [h.hit a hk]
  | none =>
    cases hr : remote with
    | some q => simp [h.miss q hk hr]
    | none => simp [h.alone hk hr]

/-- what holds in every tier holds of what the lookup gives -/
theorem holds {P : α → Prop} (hknown : ∀ a, known = some a → P a)
    (hanswer : ∀ q a, remote = some q → answer q = some a → P a) (hstub : P stub) : P l.value := by
  cases hk : known with
  | some a =>
    rw [h.hit a hk]
    exact hknown a hk
  | none =>
    cases hr : remote with
    | some q =>
      rw [h.miss q hk hr]
      cases ha : answer q with
      | some a => exact hanswer q a hr ha
      | none => exact hstub
    | none =>
      rw [h.alone hk hr]
      exact hstub

/-- without a remote source there is nobody to call -/
theorem eq_of_remote_none (hr : remote = none) : l = ⟨known.getD stub, []⟩ := by
  cases hk : known with
  | some a => exact h.hit a hk
  | none => exact h.alone hk hr

end Tiered

end Tiers

/-! ## The lookups -/

/-- the first role with an id in what a remote source answers for a guild -/
def remoteRole? (g : GuildId) (options : RequestOptions) (id : RoleId) (q : RemoteSource) : Option Role :=
  (q.roles g options).toOption.bind fun rs => rs.find? fun x => x.id = id

section OverCache

variable (cache : Option Cache) (remote : Option RemoteSource) (options : RequestOptions)

/-- a resolver over what the cache knows, if there is one -/
def overCache : Resolver := ⟨cache.map Cache.source, remote, options⟩

theorem tiered_channel (id : ChannelId) : Tiered (cache.bind fun s => s.channel? id) remote (.channel id options)
    (fun q => (q.channel id options).toOption) (.stub id) ((overCache cache remote options).channel id) := by
  cases cache <;> exact tiered_fallback

theorem tiered_role (g : GuildId) (id : RoleId) : Tiered (cache.bind fun s => s.role? g id) remote (.roles g options)
    (remoteRole? g options id) (.stub id) ((overCache cache remote options).role (some g) id) := by
  cases cache <;> exact tiered_fallback

theorem tiered_user (id : UserId) : Tiered (cache.bind fun s => s.user? id) remote (.user id options)
    (fun q => (q.user id options).toOption) (.stub id) ((overCache cache remote options).user id) := by
  cases cache <;> exact tiered_fallback

/-- settings without remote lookups leave out the remote source -/
theorem ofConfig_of_not_resolveRemote {config : Config} (h : config.resolveRemote = false) :
    ofConfig config (cache.map Cache.source) remote = overCache cache none config.request := by
  simp [ofConfig, overCache, h]

end OverCache

section Faithful

variable {cache : Option Cache} {remote : Option RemoteSource} {options : RequestOptions}

variable (hcache : ∀ s, cache = some s → s.source.Faithful)

include hcache

theorem id_role (g : GuildId) (id : RoleId) : ((overCache cache remote options).role (some g) id).value.id = id := by
  refine (tiered_role cache remote options g id).holds (P := fun r => r.id = id) (fun r hr => ?_) (fun q r _ hr => ?_)
    rfl
  · obtain ⟨s, hs, hr⟩ := Option.bind_eq_some_iff.1 hr
    exact (hcache s hs).role g id r hr
  · obtain ⟨rs, -, hr⟩ := Option.bind_eq_some_iff.1 hr
    exact Role.id_of_find? hr

variable (hremote : ∀ q, remote = some q → q.Faithful)

include hremote

theorem id_channel (id : ChannelId) : ((overCache cache remote options).channel id).value.id = id := by
  refine (tiered_channel cache remote options id).holds (P := fun c => c.id = id) (fun c hc => ?_) (fun q c hq hc => ?_)
    rfl
  · obtain ⟨s, hs, hc⟩ := Option.bind_eq_some_iff.1 hc
    exact (hcache s hs).channel id c hc
  · exact (hremote q hq).channel id options c (eq_ok_of_toOption hc)

theorem id_user (id : UserId) : ((overCache cache remote options).user id).value.id = id := by
  refine (tiered_user cache remote options id).holds (P := fun u => u.id = id) (fun u hu => ?_) (fun q u hq hu => ?_) rfl
  · obtain ⟨s, hs, hu⟩ := Option.bind_eq_some_iff.1 hu
    exact (hcache s hs).user id u hu
  · exact (hremote q hq).user id options u (eq_ok_of_toOption hu)

end Faithful

end Resolver

/-! ## Main result -/

/-- **Faithful lookups.** With the cache as it is after any events as local state, or without, and with a faithful remote
source, or without, a lookup of a channel, a user or a role in a guild gives what has the id. It gives what the cache has,
without a call; else, if there is a remote source, it makes one call and gives its answer; else the stub. Among roles the
first with the id counts, and without a guild the answer is the stub. If the settings allow no remote lookups, nobody is
called, whatever remote source there is. -/
theorem lookups_faithful (seen : Option (List Event)) {remote : Option RemoteSource} (options : RequestOptions)
    (c : ChannelId) (u : UserId) (g : GuildId) (ro : RoleId) (hremote : ∀ q, remote = some q → q.Faithful) :
    let cache := seen.map fun es => Cache.run .empty es
    let r : Resolver := ⟨cache.map Cache.source, remote, options⟩
    ((r.channel c).value.id = c ∧ (r.channel c).calls.length ≤ 1 ∧
      Resolver.Tiered (cache.bind fun s => s.channel? c) remote (.channel c options)
        (fun q => (q.channel c options).toOption) (.stub c) (r.channel c)) ∧
    ((r.user u).value.id = u ∧ (r.user u).calls.length ≤ 1 ∧
      Resolver.Tiered (cache.bind fun s => s.user? u) remote (.user u options)
        (fun q => (q.user u options).toOption) (.stub u) (r.user u)) ∧
    ((r.role (some g) ro).value.id = ro ∧ (r.role (some g) ro).calls.length ≤ 1 ∧
      Resolver.Tiered (cache.bind fun s => s.role? g ro) remote (.roles g options)
        (fun q => (q.roles g options).toOption.bind fun rs => rs.find? fun x => x.id = ro) (.stub ro)
        (r.role (some g) ro)) ∧
    r.role none ro = ⟨.stub ro, []⟩ ∧
    (∀ config : Config, config.resolveRemote = false →
      let quiet := Resolver.ofConfig config (cache.map Cache.source) remote
      quiet.channel c = ⟨(cache.bind fun s => s.channel? c).getD (.stub c), []⟩ ∧
      quiet.user u = ⟨(cache.bind fun s => s.user? u).getD (.stub u), []⟩ ∧
      quiet.role none ro = ⟨.stub ro, []⟩ ∧
      quiet.role (some g) ro = ⟨(cache.bind fun s => s.role? g ro).getD (.stub ro), []⟩) := by
  intro cache r
  have hcache : ∀ s, cache = some s → s.source.Faithful := by
    intro s hs
    obtain ⟨es, -, rfl⟩ := Option.map_eq_some_iff.1 hs
    exact Cache.faithful_run es
  have hchannel := Resolver.tiered_channel cache
  have huser := Resolver.tiered_user cache
  have hrole := Resolver.tiered_role cache
  refine ⟨?_, ?_, ?_, rfl, fun config hconfig => ?_⟩
  · exact ⟨Resolver.id_channel hcache hremote c, (hchannel remote options c).length_calls_le, hchannel remote options c⟩
  · exact ⟨Resolver.id_user hcache hremote u, (huser remote options u).length_calls_le, huser remote options u⟩
  · exact ⟨Resolver.id_role hcache g ro, (hrole remote options g ro).length_calls_le, hrole remote options g ro⟩
  · rw [Resolver.ofConfig_of_not_resolveRemote cache remote hconfig]
    exact ⟨(hchannel none config.request c).eq_of_remote_none rfl, (huser none config.request u).eq_of_remote_none rfl,
      rfl, (hrole none config.request g ro).eq_of_remote_none rfl⟩

/-- a remote source that knows two roles and the name of every user, and of a channel no more than the id -/
def courier : RemoteSource where
  channel id _ := .ok (.stub id)
  roles _ _ := .ok
    [{ Role.stub ⟨133, by decide, by decide⟩ with name := "pilot" },
      { Role.stub ⟨134, by decide, by decide⟩ with name := "herald" }]
  user id _ := .ok { User.stub id with name := "traveller" }

/-- a channel that the cache has seen, of which the remote source knows less; a user it knows by name; and the second of
the roles it answers -/
theorem lookups_faithful_courier :
    let seen : List Event := [.channelCreate { Channel.stub ⟨130, by decide, by decide⟩ with name := some "landing" }]
    let r : Resolver := ⟨some (Cache.run .empty seen).source, some courier, .blank⟩
    r.channel ⟨130, by decide, by decide⟩ =
      ⟨{ Channel.stub ⟨130, by decide, by decide⟩ with name := some "landing" }, []⟩ ∧
    r.user ⟨131, by decide, by decide⟩ =
      ⟨{ User.stub ⟨131, by decide, by decide⟩ with name := "traveller" },
        [.user ⟨131, by decide, by decide⟩ .blank]⟩ ∧
    r.role (some ⟨132, by decide, by decide⟩) ⟨134, by decide, by decide⟩ =
      ⟨{ Role.stub ⟨134, by decide, by decide⟩ with name := "herald" },
        [.roles ⟨132, by decide, by decide⟩ .blank]⟩ := by
  intro seen r
  have hcourier : ∀ q, some courier = some q → q.Faithful := by
    intro q hq
    cases hq
    exact ⟨fun _ _ _ h => by cases h; rfl, fun _ _ _ h => by cases h; rfl⟩
  obtain ⟨⟨-, -, hchannel⟩, ⟨-, -, huser⟩, ⟨-, -, hrole⟩, -⟩ := lookups_faithful (some seen) .blank
    ⟨130, by decide, by decide⟩ ⟨131, by decide, by decide⟩ ⟨132, by decide, by decide⟩ ⟨134, by decide, by decide⟩
    hcourier
  exact ⟨hchannel.hit _ rfl, huser.miss courier rfl rfl, hrole.miss courier rfl rfl⟩

end InteractionKit
