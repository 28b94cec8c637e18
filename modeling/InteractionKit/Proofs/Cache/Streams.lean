import InteractionKit.Proofs.Cache.RoleBook
import InteractionKit.Proofs.Cache.Memberships
/-
Streams of events about different guilds.

The events of one guild reach the cache in their order, but how the streams of two guilds are mixed is not settled. An
event changes only what is known of its own guild, of the channels it names and of the users it tells of. The one event
that reaches further is the loss of a guild, which takes every channel that is listed under it; these were all named in
the guild's own stream. So each stream acts on a part of the state as if the other were not there.

- `Interleaving`: two lists mixed, each in its own order.
- `Event.guild?`, `Event.channelIds`, `Event.userIds`: the guild an event is about, what it names and tells of.
- `channel?_step`, `id_of_channel?_step`: what an event makes of the entry of a channel; it is kept under its own id.
- `Area`, `AgreeOn`: a part of what is known, and two states that are alike there.
- `agreeOn_step`: events keep states alike in an area, if guilds are lost only there.
- `agreeOn_step_beyond`: an event beyond an area leaves it alone.
- `agreeOn_interleaving`: in its area a stream acts as if it were alone.
- `interleavings_agree`: in whatever way two streams are mixed, all answers are the same.
-/
namespace InteractionKit

/-! ## Mixing two streams -/

/-- the third list holds the first two, each in its own order -/
inductive Interleaving {α : Type} : List α → List α → List α → Prop
  | nil : Interleaving [] [] []
  | left (a : α) {as bs cs : List α} : Interleaving as bs cs → Interleaving (a :: as) bs (a :: cs)
  | right (b : α) {as bs cs : List α} : Interleaving as bs cs → Interleaving as (b :: bs) (b :: cs)

theorem Interleaving.symm {α : Type} {as bs cs : List α} (h : Interleaving as bs cs) : Interleaving bs as cs := by
  induction h with
  | nil => exact .nil
  | left a _ ih => exact .right a ih
  | right b _ ih => exact .left b ih

/-! ## What an event is about -/

/-- the ids of the channels and threads that are named in news -/
def News.channelIds : News → List ChannelId
  | .guild G => (G.channels ++ G.threads).map Channel.id
  | .channel ch | .gone ch => [ch.id]
  | .lost _ | .nothing => []

/-- the guild that news are about -/
def News.guild? : News → Option GuildId
  | .guild G => some G.id
  | .channel ch | .gone ch => ch.guildId
  | .lost g => some g
  | .nothing => none

/-- the guild that a note is about -/
def Note.guild? : Note → Option GuildId
  | .member g _ _ | .left g _ | .lost g => some g
  | .user _ => none

namespace Event

/-- the guild that an event is about; an interaction is about one if a member of it is told -/
def guild? : Event → Option GuildId
  | .guildCreate G | .guildUpdate G => some G.id
  | .guildDelete L => some L.id
  | .channelCreate ch | .channelUpdate ch | .threadCreate ch | .threadUpdate ch => ch.guildId
  | .channelDelete ch | .threadDelete ch => ch.guildId
  | .roleCreate e | .roleUpdate e => some e.guildId
  | .roleDelete e => some e.guildId
  | .memberAdd e | .memberUpdate e => some e.guildId
  | .memberRemove e => some e.guildId
  | .interactionCreate i => if i.member.isSome then i.guildId else none
  | .unknown _ _ _ => none

/-- the ids of the channels and threads that an event names -/
def channelIds (e : Event) : List ChannelId := e.news.channelIds

/-- the ids of the users that an event tells of -/
def userIds (e : Event) : List UserId :=
  e.notes.filterMap fun
    | .member _ u _ | .user u => some u.id
    | .left _ _ | .lost _ => none

end Event

/-! ### Other guilds -/

theorem Note.member?_of_guild?_ne {n : Note} {g : GuildId} (h : n.guild? ≠ some g) (u : UserId) :
    n.member? g u = none := by
  cases n with
  | member k w m => exact if_neg fun hk => h (congrArg some hk.1)
  | user w => rfl
  | left k v => exact if_neg fun hk => h (congrArg some hk.1)
  | lost k => exact if_neg fun hk => h (congrArg some hk)

theorem Note.guild?_of_mem_ofMember {n : Note} {g : GuildId} {m : Member} (h : n ∈ ofMember g m) :
    n.guild? = some g := by
  unfold ofMember at h
  cases hm : m.user with
  | none =>
    rw [hm] at h
    cases h
  | some u =>
    rw [hm] at h
    cases List.mem_singleton.1 h
    rfl

theorem Note.guild?_of_mem_ofInteraction {n : Note} {i : Interaction} (h : n ∈ ofInteraction i) :
    n.guild? = (Event.interactionCreate i).guild? := by
  have huser : n ∈ (i.user.map Note.user).toList → n.guild? = none := by
    intro hn
    obtain ⟨u, -, rfl⟩ := Option.map_eq_some_iff.1 (Option.mem_toList.1 hn)
    rfl
  show n.guild? = if i.member.isSome then i.guildId else none
  unfold ofInteraction at h
  cases hg : i.guildId with
  | none =>
    rw [hg] at h
    rw [huser h, ite_self]
  | some g =>
    cases hm : i.member with
    | none =>
      rw [hg, hm] at h
      exact huser h
    | some m =>
      rw [hg, hm] at h
      exact guild?_of_mem_ofMember h

namespace News

variable {n : News} {g : GuildId} {c : ChannelId}

theorem Lists.guild? (h : n.Lists g c) : n.guild? = some g := by
  cases n with
  | guild G => exact congrArg some h.1
  | channel ch => exact h.2
  | gone ch => exact h.elim
  | lost k => exact h.elim
  | nothing => exact h.elim

/-- a channel that is listed is named -/
theorem Lists.mem_channelIds (h : n.Lists g c) : c ∈ n.channelIds := by
  cases n with
  | guild G =>
    obtain ⟨-, ch, hch, hid⟩ := h
    exact List.mem_map.2 ⟨ch, hch, hid⟩
  | channel ch => exact List.mem_singleton.2 h.1.symm
  | gone ch => exact h.elim
  | lost k => exact h.elim
  | nothing => exact h.elim

theorem Unlists.guild? (h : n.Unlists g c) : n.guild? = some g := by
  cases n with
  | guild G => exact h.elim
  | channel ch => exact h.elim
  | gone ch => exact h.2
  | lost k => exact congrArg some h
  | nothing => exact h.elim

end News

namespace Event

variable {e : Event} {g : GuildId}

theorem revise_of_guild?_ne (h : e.guild? ≠ some g) (old : Option Guild) : e.revise g old = old := by
  cases e with
  | guildCreate G => exact if_neg fun hg => h (congrArg some hg)
  | guildUpdate G => exact if_neg fun hg => h (congrArg some hg)
  | guildDelete L => exact if_neg fun hg => h (congrArg some hg)
  | roleCreate e => exact if_neg fun hg => h (congrArg some hg)
  | roleUpdate e => exact if_neg fun hg => h (congrArg some hg)
  | roleDelete e => exact if_neg fun hg => h (congrArg some hg)
  | _ => rfl

/-- the notes of an event are about its guild -/
theorem guild?_of_mem_notes {n : Note} (h : n ∈ e.notes) : n.guild? = e.guild? := by
  have hmembers : ∀ G : Guild, n ∈ G.members.flatMap (Note.ofMember G.id) → n.guild? = some G.id := by
    intro G hn
    obtain ⟨m, -, hm⟩ := List.mem_flatMap.1 hn
    exact Note.guild?_of_mem_ofMember hm
  cases e with
  | guildCreate G => exact hmembers G h
  | guildUpdate G => exact hmembers G h
  | guildDelete L =>
    simp only [notes] at h
    split at h
    · cases h
    · cases List.mem_singleton.1 h
      rfl
  | memberAdd e => exact Note.guild?_of_mem_ofMember h
  | memberUpdate e => exact Note.guild?_of_mem_ofMember h
  | memberRemove e =>
    cases List.mem_singleton.1 h
    rfl
  | interactionCreate i => exact Note.guild?_of_mem_ofInteraction h
  | _ => cases h

/-- the news of an event are about its guild -/
theorem guild?_of_news (h : e.news.guild? = some g) : e.guild? = some g := by
  cases e with
  | guildDelete L =>
    simp only [news] at h
    split at h
    · cases h
    · exact h
  | roleCreate e => cases h
  | roleUpdate e => cases h
  | roleDelete e => cases h
  | memberAdd e => cases h
  | memberUpdate e => cases h
  | memberRemove e => cases h
  | interactionCreate i => cases h
  | _ => exact h

/-- nothing is said of memberships elsewhere -/
theorem lastWord_member?_of_ne (h : e.guild? ≠ some g) (u : UserId) :
    lastWord (fun n => n.member? g u) e.notes = none := by
  refine lastWord_eq_none_iff.2 fun n hn => n.member?_of_guild?_ne ?_ u
  rw [guild?_of_mem_notes hn]
  exact h

theorem lastWord_user?_of_not_mem {u : UserId} (h : u ∉ e.userIds) : lastWord (fun n => n.user? u) e.notes = none := by
  refine lastWord_eq_none_iff.2 fun n hn => ?_
  by_contra hsome
  obtain ⟨w, hw⟩ := Option.ne_none_iff_exists'.1 hsome
  refine h (List.mem_filterMap.2 ⟨n, hn, ?_⟩)
  have hid : w.id = u := n.id_of_user? hw
  cases n with
  | member g v m =>
    cases (Option.ite_none_right_eq_some.1 hw).2
    exact congrArg some hid
  | user v =>
    cases (Option.ite_none_right_eq_some.1 hw).2
    exact congrArg some hid
  | left g v => cases hw
  | lost g => cases hw

end Event

namespace Cache

/-! ## The entry of a channel -/

/-- a channel as it is kept under a guild, if it has the id -/
def keptAs (g : GuildId) (c : ChannelId) (ch : Channel) : Option Channel :=
  if ch.id = c then some { ch with guildId := some g } else none

theorem channel?_putChannels (s : Cache) (g : GuildId) (chs : List Channel) (c : ChannelId) :
    (chs.foldl (fun s ch => s.putChannel g ch) s).channel? c = (lastWord (keptAs g c) chs).or (s.channel? c) := by
  induction chs using List.reverseRecOn with
  | nil => rfl
  | append_singleton chs ch ih =>
    rw [List.foldl_append, List.foldl_cons, List.foldl_nil, lastWord_append, lastWord_singleton, Option.or_assoc, ← ih]
    unfold channel? putChannel keptAs
    rw [Table.get?_insert]
    by_cases hc : c = ch.id
    · simp [hc]
    · simp [hc, Ne.symm hc]

theorem channel?_upsertChannel (s : Cache) (ch : Channel) (c : ChannelId) :
    (s.upsertChannel ch).channel? c = if ch.id = c then some ch else s.channel? c := by
  have hput : (s.channels.insert ch.id ch).get? c = if ch.id = c then some ch else s.channels.get? c := by
    rw [Table.get?_insert]
    simp only [eq_comm]
  unfold upsertChannel
  cases hg : ch.guildId with
  | none => exact hput
  | some g =>
    -- it is kept with the guild that it names, so as it is
    have hsame : { ch with guildId := some g } = ch := by rw [← hg]
    show (s.channels.insert ch.id { ch with guildId := some g }).get? c = _
    rw [hsame]
    exact hput

theorem channel?_dropChannel (s : Cache) (ch : Channel) (c : ChannelId) :
    (s.dropChannel ch).channel? c = if ch.id = c then none else s.channel? c := by
  have herase : (s.channels.erase ch.id).get? c = if ch.id = c then none else s.channels.get? c := by
    rw [Table.get?_erase]
    simp only [eq_comm]
  unfold dropChannel
  cases ch.guildId with
  | none => exact herase
  | some g => exact herase

/-- what an event makes of the entry of a channel -/
theorem channel?_step (s : Cache) (e : Event) (c : ChannelId) :
    (s.step e).channel? c =
      match e.news with
      | .guild G => (lastWord (keptAs G.id c) (G.channels ++ G.threads)).or (s.channel? c)
      | .channel ch => if ch.id = c then some ch else s.channel? c
      | .gone ch => if ch.id = c then none else s.channel? c
      | .lost g => if c ∈ s.channelIds g then none else s.channel? c
      | .nothing => s.channel? c := by
  have htables : (s.step e).channel? c = (s.learn e.news).channel? c := congrArg (·.get? c) (step_tables s e).2
  rw [htables]
  cases e.news with
  | guild G =>
    have hguild : (s.putGuild G).channel? c =
        ((G.channels ++ G.threads).foldl (fun s ch => s.putChannel G.id ch) s).channel? c :=
      congrArg (·.get? c) (putGuild_tables s G).2
    exact hguild.trans (channel?_putChannels s G.id _ c)
  | channel ch => exact channel?_upsertChannel s ch c
  | gone ch => exact channel?_dropChannel s ch c
  | lost g => exact channel?_dropGuild s g c
  | nothing => rfl

/-- an event keeps every channel under its own id -/
theorem id_of_channel?_step {s : Cache} {e : Event} {c : ChannelId} {ch : Channel}
    (hold : ∀ old, s.channel? c = some old → old.id = c) (h : (s.step e).channel? c = some ch) : ch.id = c := by
  rw [channel?_step] at h
  cases hnews : e.news with
  | guild G =>
    rw [hnews] at h
    rcases Option.or_eq_some_iff.1 h with hlast | ⟨-, h⟩
    · obtain ⟨new, -, hkept⟩ := exists_of_lastWord hlast
      obtain ⟨hid, hch⟩ := Option.ite_none_right_eq_some.1 hkept
      cases hch
      exact hid
    · exact hold ch h
  | channel new =>
    simp only [hnews] at h
    split at h
    · next hid =>
      cases h
      exact hid
    · exact hold ch h
  | gone old =>
    simp only [hnews] at h
    exact hold ch (Option.ite_none_left_eq_some.1 h).2
  | lost g =>
    simp only [hnews] at h
    exact hold ch (Option.ite_none_left_eq_some.1 h).2
  | nothing =>
    rw [hnews] at h
    exact hold ch h

/-! ## Areas -/

/-- a part of what may be known: of some guilds, some channels and some users -/
structure Area where
  guilds : GuildId → Prop
  channels : ChannelId → Prop
  users : UserId → Prop

/-- two states have the same answers in an area -/
structure AgreeOn (A : Area) (s t : Cache) : Prop where
  guild : ∀ g, A.guilds g → s.guild? g = t.guild? g
  member : ∀ g, A.guilds g → ∀ u, s.member? g u = t.member? g u
  listed : ∀ g, A.guilds g → ∀ c, c ∈ s.channelIds g ↔ c ∈ t.channelIds g
  channel : ∀ c, A.channels c → s.channel? c = t.channel? c
  user : ∀ u, A.users u → s.user? u = t.user? u

/-- the guild of an event, if it has one, is of the area -/
def Inside (A : Area) (e : Event) : Prop := ∀ g, e.guild? = some g → A.guilds g

/-- an event has nothing to do with the area -/
structure Beyond (A : Area) (e : Event) : Prop where
  guild : ∀ g, e.guild? = some g → ¬ A.guilds g
  channels : ∀ c ∈ e.channelIds, ¬ A.channels c
  users : ∀ u ∈ e.userIds, ¬ A.users u

/-- the other guilds list no channels of the area -/
def Apart (A : Area) (s : Cache) : Prop := ∀ g, ¬ A.guilds g → ∀ c ∈ s.channelIds g, ¬ A.channels c

section Areas

variable {A : Area} {s t r : Cache} {e : Event}

theorem AgreeOn.refl (A : Area) (s : Cache) : AgreeOn A s s :=
  ⟨fun _ _ => rfl, fun _ _ _ => rfl, fun _ _ _ => Iff.rfl, fun _ _ => rfl, fun _ _ => rfl⟩

theorem AgreeOn.symm (h : AgreeOn A s t) : AgreeOn A t s :=
  ⟨fun g hg => (h.guild g hg).symm, fun g hg u => (h.member g hg u).symm, fun g hg c => (h.listed g hg c).symm,
    fun c hc => (h.channel c hc).symm, fun u hu => (h.user u hu).symm⟩

theorem AgreeOn.trans (h : AgreeOn A s t) (h' : AgreeOn A t r) : AgreeOn A s r :=
  ⟨fun g hg => (h.guild g hg).trans (h'.guild g hg), fun g hg u => (h.member g hg u).trans (h'.member g hg u),
    fun g hg c => (h.listed g hg c).trans (h'.listed g hg c), fun c hc => (h.channel c hc).trans (h'.channel c hc),
    fun u hu => (h.user u hu).trans (h'.user u hu)⟩

/-- an event does the same to states that are alike in an area, if a guild that it loses is of the area -/
theorem agreeOn_step (he : Inside A e) (h : AgreeOn A s t) : AgreeOn A (s.step e) (t.step e) where
  guild g hg := by rw [guild?_step, guild?_step, h.guild g hg]
  member g hg u := by rw [member?_step, member?_step, h.member g hg u]
  listed g hg c := by rw [mem_channelIds_step, mem_channelIds_step, h.listed g hg c]
  user u hu := by rw [user?_step, user?_step, h.user u hu]
  channel c hc := by
    rw [channel?_step, channel?_step, h.channel c hc]
    cases hn : e.news with
    | lost g =>
      have hg : A.guilds g := he g (Event.guild?_of_news (by rw [hn]; rfl))
      simp only [h.listed g hg c]
    | _ => rfl

/-- an event beyond an area changes nothing there, if the other guilds list none of its channels -/
theorem agreeOn_step_beyond (he : Beyond A e) (hs : Apart A s) : AgreeOn A (s.step e) s where
  guild g hg := by
    rw [guild?_step]
    exact Event.revise_of_guild?_ne (fun h => he.guild g h hg) _
  member g hg u := by
    rw [member?_step, Event.lastWord_member?_of_ne (fun h => he.guild g h hg) u]
    rfl
  listed g hg c := by
    have hlists : ¬ e.news.Lists g c := fun h => he.guild g (Event.guild?_of_news h.guild?) hg
    have hunlists : ¬ e.news.Unlists g c := fun h => he.guild g (Event.guild?_of_news h.guild?) hg
    rw [mem_channelIds_step]
    simp only [hlists, hunlists, false_or, not_false_iff, and_true]
  user u hu := by
    rw [user?_step, Event.lastWord_user?_of_not_mem fun h => he.users u h hu]
    rfl
  channel c hc := by
    have hnames : c ∉ e.news.channelIds := fun h => he.channels c h hc
    rw [channel?_step]
    cases hn : e.news with
    | guild G =>
      rw [hn] at hnames
      have hnone : lastWord (keptAs G.id c) (G.channels ++ G.threads) = none :=
        lastWord_eq_none_iff.2 fun ch hch => if_neg fun hid => hnames (List.mem_map.2 ⟨ch, hch, hid⟩)
      simp only [hnone, Option.none_or]
    | channel ch =>
      rw [hn] at hnames
      exact if_neg fun hid => hnames (List.mem_singleton.2 hid.symm)
    | gone ch =>
      rw [hn] at hnames
      exact if_neg fun hid => hnames (List.mem_singleton.2 hid.symm)
    | lost g =>
      have hg : ¬ A.guilds g := he.guild g (Event.guild?_of_news (by rw [hn]; rfl))
      exact if_neg fun hlisted => hs g hg c hlisted hc
    | nothing => rfl

theorem apart_empty (A : Area) : Apart A empty := fun g _ c hc => absurd hc (not_mem_channelIds_empty g c)

theorem apart_step (he : Inside A e ∨ Beyond A e) (hs : Apart A s) : Apart A (s.step e) := by
  intro g hg c hc
  rw [mem_channelIds_step] at hc
  rcases hc with hlists | ⟨hc, -⟩
  · rcases he with he | he
    · exact absurd (he g (Event.guild?_of_news hlists.guild?)) hg
    · exact he.channels c hlists.mem_channelIds
  · exact hs g hg c hc

/-- in its area a stream acts as if it were alone, whatever happens beyond -/
theorem agreeOn_interleaving {es fs m : List Event} (h : Interleaving es fs m) (hes : ∀ e ∈ es, Inside A e)
    (hfs : ∀ f ∈ fs, Beyond A f) (hs : Apart A s) (hst : AgreeOn A s t) : AgreeOn A (s.run m) (t.run es) := by
  -- `Apart` is kept by both kinds of events: it is what stops a lost guild beyond from taking channels of the area
  induction h generalizing s t with
  | nil => exact hst
  | left e _ ih =>
    obtain ⟨he, hes⟩ := List.forall_mem_cons.1 hes
    exact ih hes hfs (apart_step (.inl he) hs) (agreeOn_step he hst)
  | right f _ ih =>
    obtain ⟨hf, hfs⟩ := List.forall_mem_cons.1 hfs
    exact ih hes hfs (apart_step (.inr hf) hs) ((agreeOn_step_beyond hf hs).trans hst)

end Areas

/-! ## Two guilds -/

/-- what a stream of a guild has nothing to do with -/
def beyond (h : GuildId) (fs : List Event) : Area where
  guilds g := g ≠ h
  channels c := ∀ f ∈ fs, c ∉ f.channelIds
  users u := ∀ f ∈ fs, u ∉ f.userIds

theorem beyond_of_mem {h : GuildId} {fs : List Event} (hfs : ∀ f ∈ fs, f.guild? = some h) {f : Event} (hf : f ∈ fs) :
    Beyond (beyond h fs) f where
  guild _ hg hne := hne (Option.some.inj (hg.symm.trans (hfs f hf)))
  channels _ hc hnot := hnot f hf hc
  users _ hu hnot := hnot f hf hu

/-- two mixtures of a stream with one of another guild agree on all that the other has nothing to do with -/
theorem agreeOn_beyond {g h : GuildId} (hne : g ≠ h) {es fs l m : List Event} (hes : ∀ e ∈ es, e.guild? = some g)
    (hfs : ∀ f ∈ fs, f.guild? = some h) (hl : Interleaving es fs l) (hm : Interleaving es fs m) :
    AgreeOn (beyond h fs) (run empty l) (run empty m) := by
  have hinside : ∀ e ∈ es, Inside (beyond h fs) e := by
    intro e he k hk
    exact Option.some.inj ((hes e he).symm.trans hk) ▸ hne
  have halone : ∀ n, Interleaving es fs n → AgreeOn (beyond h fs) (run empty n) (run empty es) := fun n hn =>
    agreeOn_interleaving hn hinside (fun f hf => beyond_of_mem hfs hf) (apart_empty _) (.refl _ _)
  exact (halone l hl).trans (halone m hm).symm

/-! ## Questions -/

section Questions

variable {s t : Cache}

theorem role?_congr (hguild : ∀ g, s.guild? g = t.guild? g) (g : GuildId) (r : RoleId) : s.role? g r = t.role? g r := by
  unfold role?
  rw [hguild]

theorem seat?_congr (hmember : ∀ g u, s.member? g u = t.member? g u) (G : Guild) (g : GuildId) (u : UserId) :
    s.seat? G g u = t.seat? G g u := by
  unfold seat?
  rw [hmember]

theorem governing?_congr (hchannel : ∀ c, s.channel? c = t.channel? c) : s.governing? = t.governing? := by
  have hsame : s.channel? = t.channel? := funext hchannel
  unfold governing?
  rw [hsame]

theorem userGuildPermissions?_congr (hguild : ∀ g, s.guild? g = t.guild? g)
    (hmember : ∀ g u, s.member? g u = t.member? g u) (g : GuildId) (u : UserId) :
    s.userGuildPermissions? g u = t.userGuildPermissions? g u := by
  simp only [userGuildPermissions?, hguild, seat?_congr hmember]

theorem userChannelPermissions?_same (hguild : ∀ g, s.guild? g = t.guild? g)
    (hmember : ∀ g u, s.member? g u = t.member? g u) (hchannel : ∀ c, s.channel? c = t.channel? c) (u : UserId)
    (c : ChannelId) : s.userChannelPermissions? u c = t.userChannelPermissions? u c := by
  simp only [userChannelPermissions?, hguild, hchannel, seat?_congr hmember, governing?_congr hchannel]

end Questions

/-! ## Main result -/

/-- **Streams of two guilds commute.** Let one stream be about one guild and one about another, and let no channel be
named in both. In whatever way they are mixed, every question about guilds, channels, roles, members, indexes and
permissions has the same answer, and so has every question about a user whom at most one of them tells of. -/
theorem interleavings_agree {g h : GuildId} (hne : g ≠ h) {es fs l m : List Event}
    (hes : ∀ e ∈ es, e.guild? = some g) (hfs : ∀ f ∈ fs, f.guild? = some h)
    (hapart : ∀ e ∈ es, ∀ f ∈ fs, ∀ c ∈ e.channelIds, c ∉ f.channelIds)
    (hl : Interleaving es fs l) (hm : Interleaving es fs m) :
    let s := run empty l
    let t := run empty m
    (∀ k, s.guild? k = t.guild? k) ∧ (∀ c, s.channel? c = t.channel? c) ∧ (∀ k r, s.role? k r = t.role? k r) ∧
    (∀ k u, s.member? k u = t.member? k u) ∧ (∀ k c, c ∈ s.channelIds k ↔ c ∈ t.channelIds k) ∧
    (∀ k u, s.userGuildPermissions? k u = t.userGuildPermissions? k u) ∧
    (∀ u c, s.userChannelPermissions? u c = t.userChannelPermissions? u c) ∧
    ∀ u, (∀ e ∈ es, u ∉ e.userIds) ∨ (∀ f ∈ fs, u ∉ f.userIds) → s.user? u = t.user? u := by
  intro s t
  -- each stream fixes what the other has nothing to do with, and together that is everything
  have hleft : AgreeOn (beyond h fs) s t := agreeOn_beyond hne hes hfs hl hm
  have hright : AgreeOn (beyond g es) s t := agreeOn_beyond hne.symm hfs hes hl.symm hm.symm
  have hside : ∀ k, (beyond h fs).guilds k ∨ (beyond g es).guilds k := by
    intro k
    by_cases hk : k = h
    · exact .inr fun hkg => hne (hkg.symm.trans hk)
    · exact .inl hk
  have hguild : ∀ k, s.guild? k = t.guild? k := fun k => (hside k).elim (hleft.guild k) (hright.guild k)
  have hmember : ∀ k u, s.member? k u = t.member? k u := fun k u =>
    (hside k).elim (fun hk => hleft.member k hk u) fun hk => hright.member k hk u
  have hlisted : ∀ k c, c ∈ s.channelIds k ↔ c ∈ t.channelIds k := fun k c =>
    (hside k).elim (fun hk => hleft.listed k hk c) fun hk => hright.listed k hk c
  have hchannel : ∀ c, s.channel? c = t.channel? c := by
    intro c
    by_cases hc : ∀ f ∈ fs, c ∉ f.channelIds
    · exact hleft.channel c hc
    · simp only [not_forall, not_not] at hc
      obtain ⟨f, hf, hcf⟩ := hc
      exact hright.channel c fun e he hce => hapart e he f hf c hce hcf
  refine ⟨hguild, hchannel, role?_congr hguild, hmember, hlisted, userGuildPermissions?_congr hguild hmember,
    userChannelPermissions?_same hguild hmember hchannel, ?_⟩
  rintro u (hu | hu)
  · exact hright.user u hu
  · exact hleft.user u hu

/-! ## Two houses -/

def northId : GuildId := ⟨100, by decide, by decide⟩

def southId : GuildId := ⟨101, by decide, by decide⟩

def northYard : ChannelId := ⟨102, by decide, by decide⟩

def southYard : ChannelId := ⟨103, by decide, by decide⟩

/-- a user known by a name -/
def lodger (id : UserId) (name : String) : User := { User.stub id with name := name }

/-- someone who lives in the south house only -/
def southerner : UserId := ⟨104, by decide, by decide⟩

/-- someone who lives in both -/
def commuter : UserId := ⟨105, by decide, by decide⟩

def living (u : User) : Member := ⟨some u, none, [], none, false, false, false, none⟩

/-- a house with a yard, where everyone may look -/
def house (g : GuildId) (yard : ChannelId) (us : List User) : Guild :=
  { id := g, name := "house", ownerId := ⟨106, by decide, by decide⟩, icon := none,
    roles := [{ Role.stub g.cast with permissions := .single .viewChannel }], channels := [Channel.stub yard],
    threads := [], members := us.map living, unavailable := false }

/-- the north house opens, and is lost -/
def northLife : List Event :=
  [.guildCreate (house northId northYard [lodger commuter "nora"]), .guildDelete ⟨northId, false⟩]

/-- the south house opens, and someone moves in -/
def southLife : List Event :=
  [.guildCreate (house southId southYard [lodger commuter "soren"]),
   .memberAdd ⟨southId, living (lodger southerner "sam")⟩]

/-- the north house first -/
def northFirst : List Event := northLife ++ southLife

/-- the south house opens first, and the north house is there and lost before anyone moves in -/
def northBetween : List Event := southLife.take 1 ++ northLife ++ southLife.drop 1

/-- However the two are mixed, the southerner is the same and has the same permissions in the south yard, and nothing
is left of the north yard. The commuter, of whom both tell, goes by the name that was told last. -/
theorem interleavings_agree_houses :
    let s := run empty northFirst
    let t := run empty northBetween
    northId ≠ southId ∧ Interleaving northLife southLife northFirst ∧ Interleaving northLife southLife northBetween ∧
    s.userChannelPermissions? southerner southYard = some (.single .viewChannel) ∧
    t.userChannelPermissions? southerner southYard = some (.single .viewChannel) ∧
    s.user? southerner = t.user? southerner ∧ s.channel? northYard = none ∧ t.channel? northYard = none ∧
    s.user? commuter = some (lodger commuter "soren") ∧ t.user? commuter = some (lodger commuter "nora") := by
  intro s t
  have hne : northId ≠ southId := by decide
  have hfirst : Interleaving northLife southLife northFirst :=
    .left _ (.left _ (.right _ (.right _ .nil)))
  have hbetween : Interleaving northLife southLife northBetween :=
    .right _ (.left _ (.left _ (.right _ .nil)))
  obtain ⟨-, hchannel, -, -, -, -, haccess, huser⟩ :=
    interleavings_agree hne (by decide) (by decide) (by decide) hfirst hbetween
  have hlook : s.userChannelPermissions? southerner southYard = some (.single .viewChannel) := by decide
  have hgone : s.channel? northYard = none := by decide
  refine ⟨hne, hfirst, hbetween, hlook, (haccess _ _).symm.trans hlook, huser southerner (.inl (by decide)), hgone,
    (hchannel _).symm.trans hgone, by decide, by decide⟩

end Cache

end InteractionKit
