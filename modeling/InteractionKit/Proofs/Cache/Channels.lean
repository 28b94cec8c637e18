import InteractionKit.Cache
/-
What each change of the cache does to the channels of a guild.

Two tables tell which channels a guild has: the index lists ids under the guild, and a cached channel names the guild it
was kept under. For each change it is told here which ids are listed after it, and which channels have their home where.

- `Cache.Houses`: a channel is cached and names the guild. `Cache.Carries`: a list of channels has an id.
- `besideChannels`, `besideMembers`: the rest of the state, which changes of channels or of members leave alone.
- `mem_channelIds_*`: the index after a change. `houses_*`: the homes after it.
-/
namespace InteractionKit.Cache

/-- the channel is cached, with the guild as its home -/
def Houses (s : Cache) (g : GuildId) (c : ChannelId) : Prop := ∃ ch, s.channel? c = some ch ∧ ch.guildId = some g

/-- a channel of the list has the id -/
def Carries (chs : List Channel) (c : ChannelId) : Prop := ∃ ch ∈ chs, ch.id = c

theorem carries_cons {ch : Channel} {chs : List Channel} {c : ChannelId} :
    Carries (ch :: chs) c ↔ ch.id = c ∨ Carries chs c := by
  simp [Carries]

theorem mem_channelIds {s : Cache} {g : GuildId} {c : ChannelId} :
    c ∈ s.channelIds g ↔ ∃ ids, s.index.get? g = some ids ∧ (ids.get? c).isSome := by
  unfold channelIds
  rw [Table.mem_keys]
  cases s.index.get? g with
  | none => simp
  | some ids => simp

/-! ## Changes elsewhere -/

theorem mem_channelIds_congr {s t : Cache} (h : s.index = t.index) (g : GuildId) (c : ChannelId) :
    c ∈ s.channelIds g ↔ c ∈ t.channelIds g := by
  unfold channelIds
  rw [h]

theorem houses_congr {s t : Cache} (h : s.channels = t.channels) (g : GuildId) (c : ChannelId) :
    s.Houses g c ↔ t.Houses g c := by
  unfold Houses channel?
  rw [h]

/-- the state but for what it knows of channels -/
def besideChannels (s : Cache) : Cache := { s with channels := .empty, index := .empty }

/-- the state but for what it knows of members and users -/
def besideMembers (s : Cache) : Cache := { s with members := .empty, users := .empty }

theorem putMember_besideMembers (s : Cache) (g : GuildId) (m : Member) :
    (s.putMember g m).besideMembers = s.besideMembers := by
  unfold putMember
  cases m.user with
  | none => rfl
  | some u => rfl

theorem putMembers_besideMembers (s : Cache) (g : GuildId) (ms : List Member) :
    (ms.foldl (fun s m => s.putMember g m) s).besideMembers = s.besideMembers := by
  induction ms generalizing s with
  | nil => rfl
  | cons m ms ih => exact (ih (s.putMember g m)).trans (putMember_besideMembers s g m)

theorem seeInteraction_besideMembers (s : Cache) (i : Interaction) :
    (s.seeInteraction i).besideMembers = s.besideMembers := by
  unfold seeInteraction
  split
  · exact putMember_besideMembers s _ _
  · split
    · rfl
    · rfl

theorem tables_of_besideMembers {s t : Cache} (h : s.besideMembers = t.besideMembers) :
    s.index = t.index ∧ s.channels = t.channels := by
  show s.besideMembers.index = t.besideMembers.index ∧ s.besideMembers.channels = t.besideMembers.channels
  rw [h]
  exact ⟨rfl, rfl⟩

theorem guilds_of_besideMembers {s t : Cache} (h : s.besideMembers = t.besideMembers) : s.guilds = t.guilds := by
  show s.besideMembers.guilds = t.besideMembers.guilds
  rw [h]

theorem putChannels_besideChannels (s : Cache) (g : GuildId) (chs : List Channel) :
    (chs.foldl (fun s ch => s.putChannel g ch) s).besideChannels = s.besideChannels := by
  induction chs generalizing s with
  | nil => rfl
  | cons ch chs ih => exact ih (s.putChannel g ch)

theorem upsertChannel_besideChannels (s : Cache) (ch : Channel) :
    (s.upsertChannel ch).besideChannels = s.besideChannels := by
  unfold upsertChannel
  cases ch.guildId with
  | none => rfl
  | some g => rfl

theorem dropChannel_besideChannels (s : Cache) (ch : Channel) :
    (s.dropChannel ch).besideChannels = s.besideChannels := by
  unfold dropChannel
  cases ch.guildId with
  | none => rfl
  | some g => rfl

theorem guilds_of_besideChannels {s t : Cache} (h : s.besideChannels = t.besideChannels) : s.guilds = t.guilds := by
  show s.besideChannels.guilds = t.besideChannels.guilds
  rw [h]

/-! ## Keeping a channel -/

theorem mem_channelIds_putChannel (s : Cache) (h g : GuildId) (ch : Channel) (c : ChannelId) :
    c ∈ (s.putChannel h ch).channelIds g ↔ h = g ∧ ch.id = c ∨ c ∈ s.channelIds g := by
  unfold channelIds putChannel
  rw [Table.mem_keys, Table.mem_keys, Table.get?_insert]
  by_cases hg : g = h
  · rw [if_pos hg, Option.getD_some, Table.get?_insert, hg]
    by_cases hc : c = ch.id
    · simp [hc]
    · simp [hc, Ne.symm hc]
  · rw [if_neg hg]
    simp [Ne.symm hg]

theorem houses_putChannel (s : Cache) (h g : GuildId) (ch : Channel) (c : ChannelId) :
    (s.putChannel h ch).Houses g c ↔ ch.id = c ∧ h = g ∨ ch.id ≠ c ∧ s.Houses g c := by
  unfold Houses channel? putChannel
  simp only [Table.get?_insert]
  by_cases hc : c = ch.id
  · simp [hc]
  · simp [hc, Ne.symm hc]

theorem mem_channelIds_putChannels (s : Cache) (h g : GuildId) (chs : List Channel) (c : ChannelId) :
    c ∈ (chs.foldl (fun s ch => s.putChannel h ch) s).channelIds g ↔ h = g ∧ Carries chs c ∨ c ∈ s.channelIds g := by
  induction chs generalizing s with
  | nil => simp [Carries]
  | cons ch chs ih =>
    rw [List.foldl_cons, ih, mem_channelIds_putChannel, carries_cons, and_or_left, or_left_comm, or_assoc]

/-- of channels kept in turn the last with an id has its home with the others -/
theorem houses_putChannels (s : Cache) (h g : GuildId) (chs : List Channel) (c : ChannelId) :
    (chs.foldl (fun s ch => s.putChannel h ch) s).Houses g c ↔
      Carries chs c ∧ h = g ∨ ¬ Carries chs c ∧ s.Houses g c := by
  induction chs generalizing s with
  | nil => simp [Carries]
  | cons ch chs ih =>
    rw [List.foldl_cons, ih, houses_putChannel, carries_cons]
    by_cases hc : ch.id = c
    · by_cases hcs : Carries chs c
      · simp [hc, hcs]
      · simp [hc, hcs]
    · simp [hc]

/-! ## Guilds -/

theorem putGuild_tables (s : Cache) (G : Guild) :
    let t := (G.channels ++ G.threads).foldl (fun s ch => s.putChannel G.id ch) s
    (s.putGuild G).index = t.index ∧ (s.putGuild G).channels = t.channels := by
  intro t
  have hmembers := tables_of_besideMembers (putMembers_besideMembers t G.id G.members)
  exact hmembers

theorem mem_channelIds_putGuild (s : Cache) (G : Guild) (g : GuildId) (c : ChannelId) :
    c ∈ (s.putGuild G).channelIds g ↔
      G.id = g ∧ Carries (G.channels ++ G.threads) c ∨ c ∈ s.channelIds g := by
  rw [mem_channelIds_congr (putGuild_tables s G).1]
  exact mem_channelIds_putChannels s G.id g _ c

theorem houses_putGuild (s : Cache) (G : Guild) (g : GuildId) (c : ChannelId) :
    (s.putGuild G).Houses g c ↔
      Carries (G.channels ++ G.threads) c ∧ G.id = g ∨
        ¬ Carries (G.channels ++ G.threads) c ∧ s.Houses g c := by
  rw [houses_congr (putGuild_tables s G).2]
  exact houses_putChannels s G.id g _ c

theorem mem_channelIds_dropGuild (s : Cache) (h g : GuildId) (c : ChannelId) :
    c ∈ (s.dropGuild h).channelIds g ↔ h ≠ g ∧ c ∈ s.channelIds g := by
  rw [mem_channelIds, mem_channelIds]
  unfold dropGuild
  simp only [Table.get?_erase]
  by_cases hg : g = h
  · simp [hg]
  · simp [hg, Ne.symm hg]

/-- a lost guild takes every channel that is listed under it -/
theorem channel?_dropGuild (s : Cache) (h : GuildId) (c : ChannelId) :
    (s.dropGuild h).channel? c = if c ∈ s.channelIds h then none else s.channel? c := by
  unfold channel? dropGuild
  rw [Table.get?_filterKeys]
  by_cases hc : c ∈ s.channelIds h
  · simp [hc]
  · simp [hc]

theorem houses_dropGuild (s : Cache) (h g : GuildId) (c : ChannelId) :
    (s.dropGuild h).Houses g c ↔ c ∉ s.channelIds h ∧ s.Houses g c := by
  unfold Houses
  rw [channel?_dropGuild]
  by_cases hc : c ∈ s.channelIds h
  · simp [hc]
  · simp [hc]

/-! ## Single channels -/

theorem mem_channelIds_upsertChannel (s : Cache) (ch : Channel) (g : GuildId) (c : ChannelId) :
    c ∈ (s.upsertChannel ch).channelIds g ↔ ch.id = c ∧ ch.guildId = some g ∨ c ∈ s.channelIds g := by
  unfold upsertChannel
  cases ch.guildId with
  | none => simp [channelIds]
  | some h =>
    simp only [mem_channelIds_putChannel]
    rw [Option.some_inj, and_comm]

theorem houses_upsertChannel (s : Cache) (ch : Channel) (g : GuildId) (c : ChannelId) :
    (s.upsertChannel ch).Houses g c ↔ ch.id = c ∧ ch.guildId = some g ∨ ch.id ≠ c ∧ s.Houses g c := by
  unfold upsertChannel
  cases hg : ch.guildId with
  | none =>
    unfold Houses channel?
    simp only [Table.get?_insert]
    by_cases hc : c = ch.id
    · simp [hc, hg]
    · simp [hc, Ne.symm hc]
  | some h =>
    simp only [houses_putChannel]
    rw [Option.some_inj]

theorem mem_channelIds_dropChannel (s : Cache) (ch : Channel) (g : GuildId) (c : ChannelId) :
    c ∈ (s.dropChannel ch).channelIds g ↔ c ∈ s.channelIds g ∧ ¬ (ch.id = c ∧ ch.guildId = some g) := by
  rw [mem_channelIds, mem_channelIds]
  unfold dropChannel
  cases ch.guildId with
  | none => simp
  | some h =>
    simp only [Table.get?_modify]
    by_cases hg : g = h
    · subst hg
      cases s.index.get? g with
      | none => simp
      | some ids =>
        by_cases hc : c = ch.id
        · simp [Table.get?_erase, hc]
        · simp [Table.get?_erase, hc, Ne.symm hc]
    · simp [hg, Ne.symm hg]

theorem houses_dropChannel (s : Cache) (ch : Channel) (g : GuildId) (c : ChannelId) :
    (s.dropChannel ch).Houses g c ↔ ch.id ≠ c ∧ s.Houses g c := by
  have hchannels : (s.dropChannel ch).channels = s.channels.erase ch.id := by
    unfold dropChannel
    cases ch.guildId with
    | none => rfl
    | some h => rfl
  unfold Houses channel?
  rw [hchannels, Table.get?_erase]
  by_cases hc : c = ch.id
  · simp [hc]
  · simp [hc, Ne.symm hc]

end InteractionKit.Cache
