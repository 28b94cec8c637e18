import InteractionKit.Cache
import InteractionKit.Proofs.Json.Ensures
/-
Nothing is lost between a payload and its event.

Sixteen names are listed, each with what stands in its data and the event that is made of it. A dispatch of a listed name
whose data fits the name is that event, with what was read. Everything else is kept whole as an unknown event, which no
state is changed by. So one fault at any depth of the data, however small, keeps all of it out of the state.

- `Listing`, `Event.listings`: the listed names.
- `Payload.Carries`: a payload fits one of them. `Payload.Unfit`: it fits none.
- `ofPayload_of_carries`, `ofPayload_of_unfit`: the event in either case.
- `Guild.Flawed`: a guild with one malformed role, channel, thread, overwrite or member.
- `payload_loses_nothing`: what becomes of every payload.
-/
namespace InteractionKit

open Reader

/-! ## The listed names -/

/-- an event as it is listed: its name, what its data is read as, and the event that holds it -/
structure Listing where
  name : String
  Content : Type
  decode : Decoder Content
  event : Content → Event

namespace Event

def listings : List Listing :=
  [⟨"GUILD_CREATE", Guild, Guild.decode, .guildCreate⟩,
   ⟨"GUILD_UPDATE", Guild, Guild.decode, .guildUpdate⟩,
   ⟨"GUILD_DELETE", LostGuild, LostGuild.decode, .guildDelete⟩,
   ⟨"CHANNEL_CREATE", Channel, Channel.decode, .channelCreate⟩,
   ⟨"CHANNEL_UPDATE", Channel, Channel.decode, .channelUpdate⟩,
   ⟨"CHANNEL_DELETE", Channel, Channel.decode, .channelDelete⟩,
   ⟨"THREAD_CREATE", Channel, Channel.decode, .threadCreate⟩,
   ⟨"THREAD_UPDATE", Channel, Channel.decode, .threadUpdate⟩,
   ⟨"THREAD_DELETE", Channel, Channel.decode, .threadDelete⟩,
   ⟨"GUILD_ROLE_CREATE", RoleEvent, RoleEvent.decode, .roleCreate⟩,
   ⟨"GUILD_ROLE_UPDATE", RoleEvent, RoleEvent.decode, .roleUpdate⟩,
   ⟨"GUILD_ROLE_DELETE", RoleRemoval, RoleRemoval.decode, .roleDelete⟩,
   ⟨"GUILD_MEMBER_ADD", MemberEvent, MemberEvent.decode, .memberAdd⟩,
   ⟨"GUILD_MEMBER_UPDATE", MemberEvent, MemberEvent.decode, .memberUpdate⟩,
   ⟨"GUILD_MEMBER_REMOVE", MemberRemoval, MemberRemoval.decode, .memberRemove⟩,
   ⟨"INTERACTION_CREATE", Interaction, Interaction.field, .interactionCreate⟩]

/-- the name of an event is the one that it is listed under -/
theorem name?_event : ∀ l ∈ listings, ∀ a, (l.event a).name? = some l.name := by
  simp [listings, name?]

theorem event_ne_unknown (n : Option String) (op : UInt8) (d : Option Json) :
    ∀ l ∈ listings, ∀ a, l.event a ≠ .unknown n op d := by
  simp [listings]

/-- data under a listed name is read as it is listed -/
theorem ofNamed?_of_mem (v : Json) : ∀ l ∈ listings, ofNamed? l.name v = ofContent l.decode l.event v := by
  simp [listings, ofNamed?]

/-- no event is made under a name that is not listed -/
theorem ofNamed?_of_unlisted {name : String} (h : ∀ l ∈ listings, l.name ≠ name) (v : Json) : ofNamed? name v = none := by
  unfold ofNamed?
  split
  case h_17 => rfl
  -- every other name is a listed one
  all_goals simp [listings] at h

end Event

/-! ## Payloads -/

namespace Payload

/-- a dispatch of a listed name, with data that is read as the content -/
structure Carries (p : Payload) (l : Listing) (a : l.Content) : Prop where
  op : p.op = Event.dispatchOp
  name : p.name = some l.name
  data : ∃ v, p.data = some v ∧ l.decode.ofValue v = .ok a

/-- no event is made of the payload -/
inductive Unfit (p : Payload) : Prop
  | op (h : p.op ≠ Event.dispatchOp)
  | unlisted (h : ∀ l ∈ Event.listings, p.name ≠ some l.name)
  | empty (h : p.data = none)
  | malformed {l : Listing} {v : Json} (hl : l ∈ Event.listings) (hname : p.name = some l.name) (hv : p.data = some v)
    (h : ¬ l.decode.Takes v)

variable {p : Payload}

theorem unfit_or_carries (p : Payload) : p.Unfit ∨ ∃ l ∈ Event.listings, ∃ a, p.Carries l a := by
  by_cases hop : p.op = Event.dispatchOp
  · by_cases hname : ∃ l ∈ Event.listings, p.name = some l.name
    · obtain ⟨l, hl, hname⟩ := hname
      cases hdata : p.data with
      | none => exact .inl (.empty hdata)
      | some v =>
        by_cases hread : l.decode.Takes v
        · obtain ⟨a, ha⟩ := hread
          exact .inr ⟨l, hl, a, hop, hname, v, hdata, ha⟩
        · exact .inl (.malformed hl hname hdata hread)
    · exact .inl (.unlisted fun l hl h => hname ⟨l, hl, h⟩)
  · exact .inl (.op hop)

end Payload

namespace Event

variable {p : Payload} {l : Listing}

/-- a payload that fits a listed name is the event of that name, with what was read -/
theorem ofPayload_of_carries (hl : l ∈ listings) {a : l.Content} (h : p.Carries l a) : ofPayload p = l.event a := by
  obtain ⟨v, hv, ha⟩ := h.data
  have hnamed : ofNamed? l.name v = some (l.event a) := by
    rw [ofNamed?_of_mem v l hl, ofContent, ha]
  simp only [ofPayload, h.op, if_true, h.name, hv, hnamed, Option.getD_some]

/-- a payload that fits none is kept whole -/
theorem ofPayload_of_unfit (h : p.Unfit) : ofPayload p = .unknown p.name p.op p.data := by
  unfold ofPayload
  split
  · split
    · next name v hname hv =>
      -- a dispatch of some name with data, so the name is not listed or the data is not read
      have hnone : ofNamed? name v = none := by
        cases h with
        | op hop => exact absurd ‹_› hop
        | unlisted h => exact ofNamed?_of_unlisted (fun l hl heq => h l hl (by rw [hname, heq])) v
        | empty hdata => simp [hv] at hdata
        | @malformed l w hl hlisted hw h =>
          obtain rfl : l.name = name := Option.some.inj (hlisted.symm.trans hname)
          obtain rfl : w = v := Option.some.inj (hw.symm.trans hv)
          rw [ofNamed?_of_mem w l hl, ofContent]
          split
          · next a ha => exact absurd ⟨a, ha⟩ h
          · rfl
      rw [hnone, Option.getD_none]
    · rfl
  · rfl

theorem name?_ofPayload (p : Payload) : (ofPayload p).name? = p.name := by
  rcases p.unfit_or_carries with h | ⟨l, hl, a, h⟩
  · rw [ofPayload_of_unfit h]
    rfl
  · rw [ofPayload_of_carries hl h, name?_event l hl a, h.name]

theorem ofPayload_unknown_iff : (∃ n op d, ofPayload p = .unknown n op d) ↔ p.Unfit := by
  constructor
  · rintro ⟨n, op, d, h⟩
    rcases p.unfit_or_carries with hunfit | ⟨l, hl, a, hcarries⟩
    · exact hunfit
    · rw [ofPayload_of_carries hl hcarries] at h
      exact absurd h (event_ne_unknown n op d l hl a)
  · intro h
    exact ⟨_, _, _, ofPayload_of_unfit h⟩

end Event

/-! ## Faults inside of a guild -/

/-- one of the roles, channels, threads, overwrites or members in the guild is malformed -/
inductive Guild.Flawed (v : Json) : Prop
  | role {r : Json} (h : v.HasItem "roles" 4 r) (hr : ¬ Role.decode.Takes r)
  | channel {c : Json} (h : v.HasItem "channels" 5 c) (hc : ¬ Channel.decode.Takes c)
  | thread {c : Json} (h : v.HasItem "threads" 6 c) (hc : ¬ Channel.decode.Takes c)
  | overwrite {c o : Json} (h : v.HasItem "channels" 5 c ∨ v.HasItem "threads" 6 c)
    (hin : c.HasItem "permission_overwrites" 6 o) (ho : ¬ Overwrite.decode.Takes o)
  | member {m : Json} (h : v.HasItem "members" 7 m) (hm : ¬ Member.decode.Takes m)

/-- a channel is read only with all its overwrites -/
theorem Channel.checks_overwrites : Channel.reader.Checks "permission_overwrites" 6 (.list Overwrite.decode) := by
  iterate 6 refine .seq ?_
  exact .last checks_field

namespace Guild

theorem checks_roles : Guild.reader.Checks "roles" 4 (.list Role.decode) := by
  iterate 4 refine .seq ?_
  exact .last checks_field

theorem checks_channels : Guild.reader.Checks "channels" 5 (.list Channel.decode) := by
  iterate 3 refine .seq ?_
  exact .last checks_field

theorem checks_threads : Guild.reader.Checks "threads" 6 (.list Channel.decode) := by
  iterate 2 refine .seq ?_
  exact .last checks_field

theorem checks_members : Guild.reader.Checks "members" 7 (.list Member.decode) := .seq (.last checks_field)

/-- a guild with a flaw is not read -/
theorem Flawed.not_takes {v : Json} (h : Flawed v) : ¬ Guild.decode.Takes v := by
  intro hv
  cases h with
  | role h hr => exact hr (checks_roles.item hv h)
  | channel h hc => exact hc (checks_channels.item hv h)
  | thread h hc => exact hc (checks_threads.item hv h)
  | member h hm => exact hm (checks_members.item hv h)
  | overwrite h hin ho =>
    have hchannel := h.elim (checks_channels.item hv) (checks_threads.item hv)
    exact ho (Channel.checks_overwrites.item hchannel hin)

end Guild

/-! ## Main result -/

/-- **Nothing is lost.** The event of a payload comes under the name of the payload. It is unknown exactly when the
payload is no dispatch, its name is not listed, it has no data, or the data does not fit the name; it then holds all that
came, and changes no state. Else it is the event of its name, with what was read. So a new guild with one malformed part
changes no state. -/
theorem payload_loses_nothing (p : Payload) :
    (Event.ofPayload p).name? = p.name ∧
    ((∃ n op d, Event.ofPayload p = .unknown n op d) ↔ p.Unfit) ∧
    (p.Unfit → Event.ofPayload p = .unknown p.name p.op p.data ∧ ∀ s : Cache, s.step (Event.ofPayload p) = s) ∧
    (¬ p.Unfit → ∃ l ∈ Event.listings, ∃ a, p.Carries l a ∧ Event.ofPayload p = l.event a) ∧
    (∀ v, p.name = some "GUILD_CREATE" → p.data = some v → Guild.Flawed v →
      ∀ s : Cache, s.step (Event.ofPayload p) = s) := by
  have hkept (h : p.Unfit) (s : Cache) : s.step (Event.ofPayload p) = s := by
    rw [Event.ofPayload_of_unfit h]
    rfl
  refine ⟨Event.name?_ofPayload p, Event.ofPayload_unknown_iff, ?_, ?_, ?_⟩
  · intro h
    exact ⟨Event.ofPayload_of_unfit h, hkept h⟩
  · intro h
    obtain ⟨l, hl, a, ha⟩ := p.unfit_or_carries.resolve_left h
    exact ⟨l, hl, a, ha, Event.ofPayload_of_carries hl ha⟩
  · intro v hname hv hflaw
    exact hkept (.malformed List.mem_cons_self hname hv hflaw.not_takes)

/-- an overwrite whose id is no number -/
def blurredOverwrite : Json := .obj [("allow", .str "1024"), ("id", .str "everyone"), ("type", .int 0)]

/-- a channel with an overwrite in order and a blurred one -/
def blurredChannel : Json :=
  .obj [("id", .str "97"), ("permission_overwrites",
    .arr [.obj [("deny", .str "1024"), ("id", .str "98"), ("type", .int 0)], blurredOverwrite])]

/-- a guild with a channel in order and a blurred one -/
def blurredGuild : Json :=
  .obj [("channels", .arr [.obj [("id", .str "96")], blurredChannel]), ("id", .str "95"), ("owner_id", .str "99")]

/-- One blurred overwrite keeps the guild with all its channels out of every state, and the event holds the guild as it
came. A payload of the same guild gone is read. -/
theorem payload_loses_nothing_blurred :
    let arrives : Payload := ⟨0, some blurredGuild, some 1, some "GUILD_CREATE"⟩
    let leaves : Payload := ⟨0, some (.obj [("id", .str "95")]), some 2, some "GUILD_DELETE"⟩
    arrives.Unfit ∧ Guild.Flawed blurredGuild ∧
    Event.ofPayload arrives = .unknown (some "GUILD_CREATE") 0 (some blurredGuild) ∧
    (∀ s : Cache, s.step (Event.ofPayload arrives) = s) ∧
    ¬ leaves.Unfit ∧ ∃ l ∈ Event.listings, ∃ a, leaves.Carries l a ∧ Event.ofPayload leaves = l.event a := by
  intro arrives leaves
  have hflaw : Guild.Flawed blurredGuild := by
    refine .overwrite (c := blurredChannel) (o := blurredOverwrite) (.inl ⟨_, rfl, by simp⟩) ⟨_, rfl, by simp⟩ ?_
    exact Decoder.not_takes (e := .wrongValue (.text "everyone") Id.wanted) rfl
  have hunfit : arrives.Unfit := .malformed List.mem_cons_self rfl rfl hflaw.not_takes
  have hfit : ¬ leaves.Unfit := by
    rw [← Event.ofPayload_unknown_iff]
    rintro ⟨n, op, d, h⟩
    have hleaves : Event.ofPayload leaves = .guildDelete ⟨⟨95, by decide, by decide⟩, false⟩ := rfl
    rw [hleaves] at h
    cases h
  obtain ⟨-, -, hunknown, -, hguild⟩ := payload_loses_nothing arrives
  refine ⟨hunfit, hflaw, (hunknown hunfit).1, hguild blurredGuild rfl rfl hflaw, hfit, ?_⟩
  exact (payload_loses_nothing leaves).2.2.2.1 hfit

end InteractionKit
