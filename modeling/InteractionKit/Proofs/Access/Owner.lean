import InteractionKit.Proofs.Access.Layers
/-
The owner against the other members.

An owner holds a fixed set. Everybody else holds what roles and overwrites add up to, and these may name any flag. So a
member holds a named permission that the owner lacks just when the roles or the overwrites give one outside of the fixed
set by themselves; the raise of administrators never does.

- `Permission.unowned`: the named permissions outside of the owner's set.
- `Seat.Granted`: a flag that roles and overwrites give, with no administrator raised.
- `inGuild_within_owner_iff`, `inChannel_within_owner_iff`: when a member holds nothing named that the owner lacks.
- `owner_holds_iff`: the same for one member, and for all members of a guild at once.
- `owner_lacks_nickname`: a guild where everyone may change their nickname, save the owner.
-/
namespace InteractionKit

/-! ## The owner's set -/

/-- the named permissions that the owner's set lacks -/
def Permission.unowned : List Permission :=
  [.stream, .useExternalEmojis, .viewGuildInsights, .changeNickname, .manageNicknames, .useApplicationCommands,
   .requestToSpeak, .manageEvents, .manageThreads, .createPublicThreads, .createPrivateThreads, .useExternalStickers,
   .sendMessagesInThreads, .useEmbeddedActivities, .moderateMembers, .viewCreatorMonetizationAnalytics, .useSoundboard,
   .createGuildExpressions, .createEvents, .useExternalSounds, .sendVoiceMessages, .sendPolls, .useExternalApps,
   .pinMessages]

theorem Permission.mem_unowned (p : Permission) : p ∈ unowned ↔ p.flag ∉ Permissions.all := by cases p <;> decide

/-- every channel permission is the owner's -/
theorem Permissions.mem_all_of_mem_allChannel {f : Flag} (hf : f ∈ allChannel) : f ∈ all := mem_union.2 (.inl hf)

namespace Seat

variable {s : Seat}

theorem inGuild_of_owner (hs : s.user = s.guild.ownerId) : s.inGuild = .all := by
  have howner : s.isOwner = true := decide_eq_true hs
  unfold inGuild
  rw [howner]
  rfl

theorem inGuild_of_not_owner (hs : s.user ≠ s.guild.ownerId) : s.inGuild = guildPermissions s.guild s.roles := by
  have howner : s.isOwner = false := decide_eq_false hs
  unfold inGuild
  rw [howner]
  rfl

/-! ## Flags outside of it -/

/-- the flag under the overwrites of a channel, from the roles alone -/
def Granted (s : Seat) (os : List Overwrite) (f : Flag) : Prop :=
  (s.memberLayer os).leaves ((s.rolesLayer os).leaves ((s.everyoneLayer os).leaves s.Held)) f

/-- administrators are raised to the owner's set only -/
theorem base_of_not_mem_all (s : Seat) {f : Flag} (hf : f ∉ Permissions.all) : s.Base f ↔ s.Held f := by
  unfold Base
  simp [hf]

theorem before_of_not_mem_all (s : Seat) (os : List Overwrite) {f : Flag} (hf : f ∉ Permissions.all) :
    s.Before os f ↔ s.Granted os f := by
  refine Layer.leaves_congr _ f (Layer.leaves_congr _ f (Layer.leaves_congr _ f ?_))
  exact s.base_of_not_mem_all hf

theorem mem_inGuild_of_not_mem_all (hs : s.user ≠ s.guild.ownerId) {f : Flag} (hf : f ∉ Permissions.all) :
    f ∈ s.inGuild ↔ s.Held f := by
  rw [inGuild_of_not_owner hs, mem_guildPermissions]
  exact s.base_of_not_mem_all hf

theorem mem_inChannel_of_not_mem_all (hs : s.user ≠ s.guild.ownerId) (c : Channel) {f : Flag}
    (hf : f ∉ Permissions.all) : f ∈ s.inChannel c ↔ s.Granted c.overwrites f := by
  have hchannel : f ∉ Permissions.allChannel := fun h => hf (Permissions.mem_all_of_mem_allChannel h)
  rw [mem_inChannel hs, before_of_not_mem_all s c.overwrites hf]
  simp [hchannel]

/-! ## Members within the owner's set -/

/-- a set has no named permission that the owner's set lacks -/
theorem within_all_iff (a : Permissions) :
    (∀ p : Permission, a.has p = true → Permissions.all.has p = true) ↔ ∀ p ∈ Permission.unowned, p.flag ∉ a := by
  constructor
  · intro h p hp hmem
    have hall := h p (Permissions.has_iff.2 hmem)
    exact (Permission.mem_unowned p).1 hp (Permissions.has_iff.1 hall)
  · intro h p hp
    by_cases hall : p.flag ∈ Permissions.all
    · exact Permissions.has_iff.2 hall
    · exact absurd (Permissions.has_iff.1 hp) (h p ((Permission.mem_unowned p).2 hall))

theorem inGuild_within_owner_iff (hs : s.user ≠ s.guild.ownerId) :
    (∀ p : Permission, s.inGuild.has p = true → Permissions.all.has p = true) ↔
      ∀ p ∈ Permission.unowned, ¬ s.Held p.flag := by
  rw [within_all_iff]
  refine forall₂_congr fun p hp => ?_
  rw [mem_inGuild_of_not_mem_all hs ((Permission.mem_unowned p).1 hp)]

theorem inChannel_within_owner_iff (hs : s.user ≠ s.guild.ownerId) (c : Channel) :
    (∀ p : Permission, (s.inChannel c).has p = true → Permissions.all.has p = true) ↔
      ∀ p ∈ Permission.unowned, ¬ s.Granted c.overwrites p.flag := by
  rw [within_all_iff]
  refine forall₂_congr fun p hp => ?_
  rw [mem_inChannel_of_not_mem_all hs c ((Permission.mem_unowned p).1 hp)]

/-- what a member holds by roles is in a role of the guild -/
theorem Held.exists_role {f : Flag} (h : s.Held f) : ∃ r ∈ s.guild.roles, f ∈ r.permissions := by
  rcases h with ⟨r, hr, hf⟩ | ⟨r, hr, -, hf⟩
  · exact ⟨r, List.mem_of_find?_eq_some hr, hf⟩
  · exact ⟨r, hr, hf⟩

end Seat

/-- there is always someone else than the owner -/
theorem exists_user_ne (owner : UserId) : ∃ u : UserId, u ≠ owner := by
  by_cases h : owner.val = 1
  · refine ⟨⟨2, by decide, by decide⟩, fun heq => ?_⟩
    rw [← heq] at h
    cases h
  · refine ⟨⟨1, by decide, by decide⟩, fun heq => h ?_⟩
    rw [← heq]

/-- no member of a guild holds a named permission that the owner lacks just if no role has one -/
theorem inGuild_within_owner_all (g : Guild) :
    (∀ (u : UserId) (roles : List RoleId) (p : Permission),
        (Seat.inGuild ⟨g, u, roles⟩).has p = true → Permissions.all.has p = true) ↔
      ∀ r ∈ g.roles, ∀ p ∈ Permission.unowned, p.flag ∉ r.permissions := by
  constructor
  · intro h r hr p hp hmem
    obtain ⟨u, hu⟩ := exists_user_ne g.ownerId
    have hwithin := (Seat.inGuild_within_owner_iff (s := ⟨g, u, [r.id]⟩) hu).1 (h u [r.id])
    exact hwithin p hp (.inr ⟨r, hr, List.mem_singleton.2 rfl, hmem⟩)
  · intro h u roles
    by_cases hu : u = g.ownerId
    · rw [Seat.inGuild_of_owner (s := ⟨g, u, roles⟩) hu]
      exact fun p hp => hp
    · refine (Seat.inGuild_within_owner_iff (s := ⟨g, u, roles⟩) hu).2 fun p hp hheld => ?_
      obtain ⟨r, hr, hmem⟩ := hheld.exists_role
      exact h r hr p hp hmem

/-! ## Main result -/

/-- **The owner and the others.** A member other than the owner holds no named permission that the owner lacks just when
roles and overwrites give none of the unowned ones, in a channel and in the guild. So in a guild the owner has what
anyone may have just when no role of the guild has an unowned permission. -/
theorem owner_holds_iff (g : Guild) (c : Channel) (u : UserId) (roles others : List RoleId) :
    ((∀ p : Permission, (memberPermissions g c u roles).has p = true →
        (memberPermissions g c g.ownerId others).has p = true) ↔
      u = g.ownerId ∨ ∀ p ∈ Permission.unowned, ¬ Seat.Granted ⟨g, u, roles⟩ c.overwrites p.flag) ∧
    ((∀ p : Permission, (Seat.inGuild ⟨g, u, roles⟩).has p = true →
        (Seat.inGuild ⟨g, g.ownerId, others⟩).has p = true) ↔
      u = g.ownerId ∨ ∀ p ∈ Permission.unowned, ¬ Seat.Held ⟨g, u, roles⟩ p.flag) ∧
    ((∀ (u : UserId) (roles others : List RoleId) (p : Permission),
        (Seat.inGuild ⟨g, u, roles⟩).has p = true → (Seat.inGuild ⟨g, g.ownerId, others⟩).has p = true) ↔
      ∀ r ∈ g.roles, ∀ p ∈ Permission.unowned, p.flag ∉ r.permissions) := by
  have hchannel (others : List RoleId) : memberPermissions g c g.ownerId others = .all :=
    Seat.inChannel_of_owner (s := ⟨g, g.ownerId, others⟩) rfl c
  have hguild (others : List RoleId) : Seat.inGuild ⟨g, g.ownerId, others⟩ = .all :=
    Seat.inGuild_of_owner (s := ⟨g, g.ownerId, others⟩) rfl
  refine ⟨?_, ?_, ?_⟩
  · rw [hchannel]
    by_cases hu : u = g.ownerId
    · subst hu
      rw [hchannel]
      simp
    · rw [or_iff_right hu]
      exact Seat.inChannel_within_owner_iff (s := ⟨g, u, roles⟩) hu c
  · rw [hguild]
    by_cases hu : u = g.ownerId
    · subst hu
      rw [hguild]
      simp
    · rw [or_iff_right hu]
      exact Seat.inGuild_within_owner_iff (s := ⟨g, u, roles⟩) hu
  · simp only [hguild]
    rw [← inGuild_within_owner_all]
    exact ⟨fun h u roles => h u roles [], fun h u roles _ => h u roles⟩

/-! ## A permission that only the owner lacks -/

/-- everyone may change their nickname -/
def nicknameGuild : Guild :=
  ⟨⟨50, by decide, by decide⟩, "names", ⟨51, by decide, by decide⟩, none,
    [{ Role.stub ⟨50, by decide, by decide⟩ with permissions := .ofList [.viewChannel, .changeNickname] }], [], [], [],
    false⟩

/-- In the guild and in every channel without overwrites the owner is the one who may not. -/
theorem owner_lacks_nickname :
    let u : UserId := ⟨52, by decide, by decide⟩
    let c : Channel := Channel.stub ⟨53, by decide, by decide⟩
    (memberPermissions nicknameGuild c u []).has .changeNickname = true ∧
    (memberPermissions nicknameGuild c nicknameGuild.ownerId []).has .changeNickname = false ∧
    (Seat.inGuild ⟨nicknameGuild, u, []⟩).has .changeNickname = true ∧
    (Seat.inGuild ⟨nicknameGuild, nicknameGuild.ownerId, []⟩).has .changeNickname = false := by
  decide

end InteractionKit
