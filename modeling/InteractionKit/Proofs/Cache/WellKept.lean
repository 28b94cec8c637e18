import InteractionKit.Proofs.Cache.Streams
/-
What every state of the cache keeps.

Five tables are kept by events of many kinds, and what is read from one of them leans on the others: permissions are
worked out from a guild under its id and from a member whose user is known, a lost guild takes the channels that its
index lists, a lookup trusts that an entry has the id it stands under. All of this is one invariant. It holds of the
empty state, and every event keeps it, whatever its payload holds: it is told table by table, from what the event makes
of an entry.

- `Guild.Kept`: a guild as it is kept under an id. `kept_revise`: an event leaves nothing else in the table.
- `user_of_member?_step`, `isSome_user?_step`: members come without their users, and these are known.
- `WellKept`: the invariant. `wellKept_empty`, `WellKept.step`, `WellKept.run`: it is never lost.
- `run_wellKept`: it holds of every state that is reached from the empty one.
-/
namespace InteractionKit

/-! ## Guilds -/

/-- a guild as it is kept under an id: it has the id, and none of the lists that have tables of their own -/
def Guild.Kept (g : GuildId) (G : Guild) : Prop :=
  G.id = g ∧ G.channels = [] ∧ G.threads = [] ∧ G.members = []

theorem Guild.kept_bare (G : Guild) : G.bare.Kept G.id := ⟨rfl, rfl, rfl, rfl⟩

/-- an entry that is changed in place stays as it is kept, if the change does not touch what this is about -/
theorem Guild.kept_map {g : GuildId} {old : Option Guild} {f : Guild → Guild} {G : Guild} (h : old.map f = some G)
    (hold : ∀ G, old = some G → G.Kept g) (hf : ∀ G, G.Kept g → (f G).Kept g) : G.Kept g := by
  obtain ⟨G', hG', rfl⟩ := Option.map_eq_some_iff.1 h
  exact hf G' (hold G' hG')

/-- whatever an event makes of the entry of a guild is a guild as it is kept -/
theorem Event.kept_revise {e : Event} {g : GuildId} {old : Option Guild} (hold : ∀ G, old = some G → G.Kept g)
    {G : Guild} (h : e.revise g old = some G) : G.Kept g := by
  have hput : ∀ G' : Guild, (if G'.id = g then some G'.bare else old) = some G → G.Kept g := by
    intro G' h
    split at h
    · next hid =>
      cases h
      exact hid ▸ G'.kept_bare
    · exact hold G h
  have hroles : ∀ (k : GuildId) (f : List Role → List Role),
      (if k = g then old.map fun G => { G with roles := f G.roles } else old) = some G → G.Kept g := by
    intro k f h
    split at h
    · exact Guild.kept_map h hold fun _ hG => hG
    · exact hold G h
  cases e with
  | guildCreate G' => exact hput G' h
  | guildUpdate G' => exact hput G' h
  | guildDelete L =>
    simp only [revise] at h
    split at h
    · split at h
      · exact Guild.kept_map h hold fun _ hG => hG
      · cases h
    · exact hold G h
  | roleCreate e => exact hroles e.guildId (Cache.putRole e.role) h
  | roleUpdate e => exact hroles e.guildId (Cache.putRole e.role) h
  | roleDelete e => exact hroles e.guildId (fun rs => rs.filter fun r => r.id ≠ e.roleId) h
  | _ => exact hold G h

/-! ## Members and users -/

/-- a member is told without the user -/
theorem Note.user_of_member? {n : Note} {g : GuildId} {u : UserId} {m : Member}
    (h : n.member? g u = some (some m)) : m.user = none := by
  cases n with
  | member k w m' =>
    obtain ⟨-, hm⟩ := Option.ite_none_right_eq_some.1 h
    cases hm
    rfl
  | user w => cases h
  | left k v =>
    obtain ⟨-, hm⟩ := Option.ite_none_right_eq_some.1 h
    cases hm
  | lost k =>
    obtain ⟨-, hm⟩ := Option.ite_none_right_eq_some.1 h
    cases hm

namespace Cache

variable {s : Cache} {e : Event}

/-- a membership after an event is as a note of the event tells it, or as it was -/
theorem member?_step_cases {g : GuildId} {u : UserId} {m : Member} (h : (s.step e).member? g u = some m) :
    (∃ n ∈ e.notes, n.member? g u = some (some m)) ∨ s.member? g u = some m := by
  rw [member?_step] at h
  cases hlast : lastWord (fun n => n.member? g u) e.notes with
  | none =>
    rw [hlast] at h
    exact .inr h
  | some o =>
    rw [hlast] at h
    obtain ⟨n, hn, ho⟩ := exists_of_lastWord hlast
    exact .inl ⟨n, hn, ho.trans (congrArg some h)⟩

/-- an event keeps members without their users -/
theorem user_of_member?_step {g : GuildId} {u : UserId} {m : Member}
    (hold : ∀ m, s.member? g u = some m → m.user = none) (h : (s.step e).member? g u = some m) : m.user = none := by
  rcases member?_step_cases h with ⟨n, -, hm⟩ | hm
  · exact n.user_of_member? hm
  · exact hold m hm

/-- an event that tells of a member tells of the user, and no event forgets a user -/
theorem isSome_user?_step {g : GuildId} {u : UserId} {m : Member}
    (hold : ∀ m, s.member? g u = some m → (s.user? u).isSome) (h : (s.step e).member? g u = some m) :
    ((s.step e).user? u).isSome := by
  rw [user?_step, Option.isSome_or, Bool.or_eq_true]
  rcases member?_step_cases h with ⟨n, hn, hm⟩ | hm
  · obtain ⟨w, hw⟩ := n.user?_of_member? hm
    exact .inl (lastWord_isSome hn hw)
  · exact .inr (hold m hm)

/-- an event keeps every user under the own id -/
theorem id_of_user?_step {u : UserId} {w : User} (hold : ∀ old, s.user? u = some old → old.id = u)
    (h : (s.step e).user? u = some w) : w.id = u := by
  rw [user?_step] at h
  rcases Option.or_eq_some_iff.1 h with hlast | ⟨-, hw⟩
  · obtain ⟨n, -, hw⟩ := exists_of_lastWord hlast
    exact n.id_of_user? hw
  · exact hold w hw

/-! ## The invariant -/

/-- what the five tables keep, each for itself and with the others -/
structure WellKept (s : Cache) : Prop where
  /-- a guild stands under its id, without the lists that have tables of their own -/
  guild : ∀ g G, s.guild? g = some G → G.Kept g
  /-- a channel stands under its id -/
  channel : ∀ c ch, s.channel? c = some ch → ch.id = c
  /-- a channel is listed under the guild that it names -/
  listed : ∀ c ch g, s.channel? c = some ch → ch.guildId = some g → c ∈ s.channelIds g
  /-- a member is kept without the user -/
  member : ∀ g u m, s.member? g u = some m → m.user = none
  /-- the user of a member is known -/
  known : ∀ g u m, s.member? g u = some m → (s.user? u).isSome
  /-- a user stands under the own id -/
  user : ∀ u w, s.user? u = some w → w.id = u

theorem wellKept_empty : WellKept empty where
  guild _ _ h := by cases h
  channel _ _ h := by cases h
  listed _ _ _ h := by cases h
  member _ _ _ h := by cases h
  known _ _ _ h := by cases h
  user _ _ h := by cases h

theorem WellKept.mem_channelIds (h : s.WellKept) {g : GuildId} {c : ChannelId} (hc : s.Houses g c) :
    c ∈ s.channelIds g := by
  obtain ⟨ch, hch, hg⟩ := hc
  exact h.listed c ch g hch hg

/-- an event keeps the invariant -/
theorem WellKept.step (h : s.WellKept) (e : Event) : (s.step e).WellKept where
  guild g G hG := by
    rw [guild?_step] at hG
    exact Event.kept_revise (h.guild g) hG
  channel c ch hch := id_of_channel?_step (h.channel c) hch
  listed c ch g hch hg := mem_channelIds_step_of_houses h.mem_channelIds ⟨ch, hch, hg⟩
  member g u m hm := user_of_member?_step (h.member g u) hm
  known g u m hm := isSome_user?_step (h.known g u) hm
  user u w hw := id_of_user?_step (h.user u) hw

/-- so do any events, one after another -/
theorem WellKept.run (h : s.WellKept) (es : List Event) : (s.run es).WellKept := by
  induction es generalizing s with
  | nil => exact h
  | cons e es ih =>
    apply ih
    exact h.step e

/-! ## Main result -/

/-- **Every state is well kept.** Whatever events a cache was fed with from its beginning: a guild stands under its own
id with empty lists of channels, threads and members; a channel stands under its own id, and is in the index of the
guild that it names; a member is kept without a user, and the user is known; a user stands under the own id. -/
theorem run_wellKept (es : List Event) : (run empty es).WellKept := wellKept_empty.run es

end Cache

end InteractionKit
