import InteractionKit.Proofs.Cache.ChannelIndex
/-
A guild that was left.

The channels of a lost guild are found through its index. After every run a cached channel is listed under the guild
that it names, so none of them is left behind, and nothing that is asked about the guild has an answer.

- `guild?_dropGuild`, `member?_dropGuild`: what a lost guild does to the answers about any guild.
- `not_houses_dropGuild`: after a run no channel is left behind.
- `guildDelete_complete`: everything of the guild is gone, other guilds and all users are as they were.
-/
namespace InteractionKit.Cache

/-! ## Losing a guild -/

theorem guild?_dropGuild (s : Cache) (h g : GuildId) :
    (s.dropGuild h).guild? g = if g = h then none else s.guild? g := by
  unfold guild? dropGuild
  exact Table.get?_erase s.guilds h g

theorem member?_dropGuild (s : Cache) (h g : GuildId) (u : UserId) :
    (s.dropGuild h).member? g u = if g = h then none else s.member? g u := by
  unfold member? dropGuild
  rw [Table.get?_erase]
  by_cases hg : g = h
  · simp [hg]
  · simp [hg]

theorem channelIds_dropGuild_self (s : Cache) (g : GuildId) : (s.dropGuild g).channelIds g = [] := by
  refine List.eq_nil_iff_forall_not_mem.2 fun c hc => ?_
  rw [mem_channelIds_dropGuild] at hc
  exact hc.1 rfl

theorem channel?_dropGuild_of_not_listed {s : Cache} {g : GuildId} {c : ChannelId} (hc : c ∉ s.channelIds g) :
    (s.dropGuild g).channel? c = s.channel? c := by
  rw [channel?_dropGuild, if_neg hc]

/-- after a run every channel of a guild is listed under it, and so goes with it -/
theorem not_houses_dropGuild (es : List Event) (g : GuildId) (c : ChannelId) :
    ¬ ((run empty es).dropGuild g).Houses g c := by
  intro h
  rw [houses_dropGuild] at h
  obtain ⟨hlisted, hhome⟩ := h
  exact hlisted (mem_channelIds_of_houses es hhome)

/-- a guild that is not known answers no question about roles or permissions -/
theorem no_answers_of_guild?_eq_none {s : Cache} {g : GuildId} (h : s.guild? g = none) :
    (∀ r, s.role? g r = none) ∧ ∀ u, s.userGuildPermissions? g u = none := by
  constructor
  · intro r
    unfold role?
    rw [h]
    rfl
  · intro u
    unfold userGuildPermissions?
    rw [h]
    rfl

/-! ## Main result -/

/-- **A lost guild leaves nothing behind.** After every run, when a guild is left, it has no entry, no roles, no index,
no members and no permissions, and no cached channel names it. The guilds and members elsewhere, the users, and the
channels that were not listed under it are as they were. -/
theorem guildDelete_complete (es : List Event) (g : GuildId) :
    let before := run empty es
    let after := run empty (es ++ [.guildDelete ⟨g, false⟩])
    (after.guild? g = none ∧ (∀ r, after.role? g r = none) ∧ after.channelIds g = [] ∧
      (∀ c ch, after.channel? c = some ch → ch.guildId ≠ some g) ∧
      ∀ u, after.member? g u = none ∧ after.userGuildPermissions? g u = none) ∧
    (∀ h, h ≠ g → after.guild? h = before.guild? h ∧ ∀ u, after.member? h u = before.member? h u) ∧
    (∀ u, after.user? u = before.user? u) ∧
    ∀ c, c ∉ before.channelIds g → after.channel? c = before.channel? c := by
  intro before after
  have hafter : after = before.dropGuild g := run_snoc empty es (.guildDelete ⟨g, false⟩)
  have hguild : after.guild? g = none := by
    rw [hafter, guild?_dropGuild, if_pos rfl]
  obtain ⟨hroles, hpermissions⟩ := no_answers_of_guild?_eq_none hguild
  refine ⟨⟨hguild, hroles, ?_, ?_, fun u => ⟨?_, hpermissions u⟩⟩, fun h hne => ⟨?_, fun u => ?_⟩, fun u => ?_, ?_⟩
  · rw [hafter]
    exact channelIds_dropGuild_self before g
  · intro c ch hch hg
    rw [hafter] at hch
    exact not_houses_dropGuild es g c ⟨ch, hch, hg⟩
  · rw [hafter, member?_dropGuild, if_pos rfl]
  · rw [hafter, guild?_dropGuild, if_neg hne]
  · rw [hafter, member?_dropGuild, if_neg hne]
  · rw [hafter]
    rfl
  · intro c hc
    rw [hafter]
    exact channel?_dropGuild_of_not_listed hc

end InteractionKit.Cache
