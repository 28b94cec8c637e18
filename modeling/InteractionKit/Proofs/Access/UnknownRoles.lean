import InteractionKit.Cache
import InteractionKit.Proofs.Access.Layers
import Mathlib.Tactic.ByContra
/-
Ids of roles that the guild does not have.

A member may list a role that is gone. What the roles hold is summed up over the roles of the guild, so such an id gives
nothing there. The overwrites of a channel ask only whether the member lists the id, so an overwrite that is left over
from a role still counts: it tips each flag that no stronger overwrite settles and that it changes.

- `Guild.knownRoles`: the ids of a list that are ids of roles of the guild. `Seat.known`: a seat with no others.
- `inGuild_congr`: what roles hold depends on the roles of the guild that are listed, and on nothing else.
- `Seat.Tips`: a flag that overwrites of unknown roles change.
- `memberPermissions_known_iff`: when unknown ids make no difference in a channel.
- `memberPermissions_unknown_role`: a deleted role that still grants a flag.
-/
namespace InteractionKit

/-! ## Known ids -/

/-- the ids of a list that are ids of roles of the guild -/
def Guild.knownRoles (g : Guild) (ids : List RoleId) : List RoleId := ids.filter fun a => g.roles.any fun r => r.id = a

theorem Guild.mem_knownRoles {g : Guild} {ids : List RoleId} {a : RoleId} :
    a ∈ g.knownRoles ids ↔ a ∈ ids ∧ ∃ r ∈ g.roles, r.id = a := by
  simp [knownRoles]

namespace Seat

/-- the seat without ids that the guild has no role for -/
def known (s : Seat) : Seat := { s with roles := s.guild.knownRoles s.roles }

/-- what roles hold depends only on which roles of the guild are listed -/
theorem held_congr {g : Guild} {u : UserId} {ids ids' : List RoleId} (h : ∀ r ∈ g.roles, r.id ∈ ids ↔ r.id ∈ ids')
    (f : Flag) : Held ⟨g, u, ids⟩ f ↔ Held ⟨g, u, ids'⟩ f := by
  refine or_congr Iff.rfl ?_
  constructor
  · rintro ⟨r, hr, hids, hf⟩
    exact ⟨r, hr, (h r hr).1 hids, hf⟩
  · rintro ⟨r, hr, hids, hf⟩
    exact ⟨r, hr, (h r hr).2 hids, hf⟩

theorem base_congr {g : Guild} {u : UserId} {ids ids' : List RoleId} (h : ∀ r ∈ g.roles, r.id ∈ ids ↔ r.id ∈ ids')
    (f : Flag) : Base ⟨g, u, ids⟩ f ↔ Base ⟨g, u, ids'⟩ f := by
  unfold Base
  rw [held_congr h, held_congr h]

theorem inGuild_congr {g : Guild} {u : UserId} {ids ids' : List RoleId} (h : ∀ r ∈ g.roles, r.id ∈ ids ↔ r.id ∈ ids') :
    inGuild ⟨g, u, ids⟩ = inGuild ⟨g, u, ids'⟩ := by
  have hroles : guildPermissions g ids = guildPermissions g ids' := by
    refine Permissions.ext_flags fun f => ?_
    rw [mem_guildPermissions ⟨g, u, ids⟩, mem_guildPermissions ⟨g, u, ids'⟩]
    exact base_congr h f
  unfold inGuild
  rw [hroles]
  rfl

theorem mem_known_roles (s : Seat) : ∀ r ∈ s.guild.roles, r.id ∈ s.known.roles ↔ r.id ∈ s.roles := by
  intro r hr
  unfold known
  rw [Guild.mem_knownRoles]
  exact ⟨fun h => h.1, fun h => ⟨h, r, hr, rfl⟩⟩

/-! ## Overwrites of unknown roles -/

/-- every overwrite for an id that the member lists and the guild has no role for -/
def unknownLayer (s : Seat) (os : List Overwrite) : Layer :=
  .ofEvery os fun o => o.kind = .role ∧ o.id.cast ∈ s.roles ∧ o.id.cast ∉ s.known.roles

theorem fits_iff (s : Seat) (o : Overwrite) :
    (o.kind = .role ∧ o.id.cast ∈ s.roles) ↔
      (o.kind = .role ∧ o.id.cast ∈ s.known.roles) ∨
        (o.kind = .role ∧ o.id.cast ∈ s.roles ∧ o.id.cast ∉ s.known.roles) := by
  have hsub : o.id.cast ∈ s.known.roles → o.id.cast ∈ s.roles := fun h => (Guild.mem_knownRoles.1 h).1
  by_cases hk : o.id.cast ∈ s.known.roles
  · simp [hk, hsub hk]
  · simp [hk]

/-- the layer of the roles is made of the known ones and the others -/
theorem rolesLayer_split (s : Seat) (os : List Overwrite) (f : Flag) :
    ((s.rolesLayer os).allows f ↔ (s.known.rolesLayer os).allows f ∨ (s.unknownLayer os).allows f) ∧
      ((s.rolesLayer os).denies f ↔ (s.known.rolesLayer os).denies f ∨ (s.unknownLayer os).denies f) := by
  simp only [rolesLayer, unknownLayer, Layer.ofEvery, fits_iff s, or_and_right, and_or_left, exists_or, and_self]

/-- overwrites of unknown roles change the flag: no overwrite of the member speaks of it, none of a known role allows it,
and they allow it where it is not there without them, or only deny it where it is -/
def Tips (s : Seat) (os : List Overwrite) (f : Flag) : Prop :=
  ¬ (s.memberLayer os).allows f ∧ ¬ (s.memberLayer os).denies f ∧ ¬ (s.known.rolesLayer os).allows f ∧
    ((s.unknownLayer os).allows f ∧ ¬ s.known.Before os f ∨
      ¬ (s.unknownLayer os).allows f ∧ (s.unknownLayer os).denies f ∧ s.known.Before os f)

/-- a flag is the same with unknown ids and without them just if they do not tip it -/
theorem before_known_iff (s : Seat) (os : List Overwrite) (f : Flag) :
    (s.Before os f ↔ s.known.Before os f) ↔ ¬ s.Tips os f := by
  have hmember : s.known.memberLayer os = s.memberLayer os := rfl
  have heveryone : s.known.everyoneLayer os = s.everyoneLayer os := rfl
  have hbase : s.known.Base f ↔ s.Base f := base_congr s.mem_known_roles f
  obtain ⟨hallows, hdenies⟩ := s.rolesLayer_split os f
  unfold Tips Before Layer.leaves
  rw [hmember, heveryone, hallows, hdenies, hbase]
  -- from the outside in: what the member's own overwrite or a known role settles is settled on both sides
  by_cases hm : (s.memberLayer os).allows f ∨ (s.memberLayer os).denies f
  · rcases hm with hm | hm
    · simp [hm]
    · simp [hm]
  · obtain ⟨hma, hmd⟩ := not_or.1 hm
    by_cases hk : (s.known.rolesLayer os).allows f
    · simp [hk]
    · by_cases hu : (s.unknownLayer os).allows f
      · by_cases hkd : (s.known.rolesLayer os).denies f
        · simp [hma, hmd, hk, hu, hkd]
        · simp only [hma, hmd, hk, hu, hkd, false_or, true_or, or_true, true_and, not_true_eq_false, not_false_eq_true,
            false_and, or_false, and_true, true_iff, Classical.not_not]
      · by_cases hud : (s.unknownLayer os).denies f
        · simp [hma, hmd, hk, hu, hud]
        · simp [hud, hu]

theorem administrator_not_mem_allChannel : Permission.administrator.flag ∉ Permissions.allChannel := by decide

/-- unknown ids make no difference in a channel just if administrators are raised to all that they tip -/
theorem inChannel_known_iff {s : Seat} (hs : s.user ≠ s.guild.ownerId) (c : Channel) :
    s.inChannel c = s.known.inChannel c ↔
      ∀ f, s.Tips c.overwrites f →
        f ∈ Permissions.allChannel ∧ s.known.Before c.overwrites Permission.administrator.flag := by
  have hknown : s.known.user ≠ s.known.guild.ownerId := hs
  have hsame (f : Flag) : (f ∈ s.inChannel c ↔ f ∈ s.known.inChannel c) ↔
      (s.Before c.overwrites f ∨
          s.Before c.overwrites Permission.administrator.flag ∧ f ∈ Permissions.allChannel ↔
        s.known.Before c.overwrites f ∨
          s.known.Before c.overwrites Permission.administrator.flag ∧ f ∈ Permissions.allChannel) := by
    rw [mem_inChannel hs, mem_inChannel hknown]
  constructor
  · intro heq f hf
    have hflags (f : Flag) := (hsame f).1 (by rw [heq])
    have hchanged : ¬ (s.Before c.overwrites f ↔ s.known.Before c.overwrites f) := fun h =>
      (s.before_known_iff c.overwrites f).1 h hf
    -- the flag of administrators is no channel permission, so nothing can hide a change of it
    have hadmin := hflags Permission.administrator.flag
    simp only [administrator_not_mem_allChannel, and_false, or_false] at hadmin
    have hflag := hflags f
    rw [hadmin] at hflag
    constructor
    · by_contra hmem
      simp only [hmem, and_false, or_false] at hflag
      exact hchanged hflag
    · by_contra hraised
      simp only [hraised, false_and, or_false] at hflag
      exact hchanged hflag
  · intro h
    refine Permissions.ext_flags fun f => (hsame f).2 ?_
    have hadmin : s.Before c.overwrites Permission.administrator.flag ↔
        s.known.Before c.overwrites Permission.administrator.flag := by
      refine (s.before_known_iff c.overwrites _).2 fun htips => ?_
      exact administrator_not_mem_allChannel (h _ htips).1
    rw [hadmin]
    by_cases hf : s.Tips c.overwrites f
    · obtain ⟨hmem, hraised⟩ := h f hf
      simp [hmem, hraised]
    · rw [(s.before_known_iff c.overwrites f).2 hf]

end Seat

/-! ## Deleted roles -/

/-- after a role was deleted no role of the guild has its id -/
theorem Cache.id_ne_of_dropRole {s : Cache} {e : RoleRemoval} {g : Guild}
    (h : (s.dropRole e).guild? e.guildId = some g) : ∀ r ∈ g.roles, r.id ≠ e.roleId := by
  intro r hr
  unfold Cache.dropRole Cache.guild? at h
  simp only [Table.get?_modify, if_true, Option.map_eq_some_iff] at h
  obtain ⟨g', -, rfl⟩ := h
  exact of_decide_eq_true (List.mem_filter.1 hr).2

/-- what a member may do in a guild does not change when the id of a deleted role is taken from the list -/
theorem Cache.userGuildPermissions?_dropRole (s : Cache) (e : RoleRemoval) (u : UserId) :
    (s.dropRole e).userGuildPermissions? e.guildId u =
      ((s.dropRole e).guild? e.guildId).bind fun g =>
        ((s.dropRole e).seat? g e.guildId u).map fun seat =>
          Seat.inGuild { seat with roles := seat.roles.filter fun a => a ≠ e.roleId } := by
  unfold userGuildPermissions?
  cases hg : (s.dropRole e).guild? e.guildId with
  | none => rfl
  | some g =>
    cases hseat : (s.dropRole e).seat? g e.guildId u with
    | none => simp [hseat]
    | some seat =>
      have hguild : seat.guild = g := by
        unfold seat? at hseat
        split at hseat
        · cases hseat
          rfl
        · obtain ⟨m, -, rfl⟩ := Option.map_eq_some_iff.1 hseat
          rfl
      have hsame : ∀ r ∈ seat.guild.roles, r.id ∈ seat.roles ↔ r.id ∈ seat.roles.filter fun a => a ≠ e.roleId := by
        intro r hr
        have hne : r.id ≠ e.roleId := id_ne_of_dropRole hg r (hguild ▸ hr)
        simp [hne]
      simp [hseat, Seat.inGuild_congr hsame]

/-! ## Main result -/

/-- **Unknown roles.** Ids that the guild has no role for never count for what a member may do in the guild, and so the
id of a deleted role does not. In a channel they make no difference just if the member is the owner, or every flag that
their overwrites tip is a channel permission that the member holds as an administrator. -/
theorem memberPermissions_known_iff (g : Guild) (c : Channel) (u : UserId) (roles : List RoleId) :
    Seat.inGuild ⟨g, u, roles⟩ = Seat.inGuild ⟨g, u, g.knownRoles roles⟩ ∧
    (∀ (s : Cache) (e : RoleRemoval), (s.step (.roleDelete e)).userGuildPermissions? e.guildId u =
      ((s.step (.roleDelete e)).guild? e.guildId).bind fun g =>
        ((s.step (.roleDelete e)).seat? g e.guildId u).map fun seat =>
          Seat.inGuild { seat with roles := seat.roles.filter fun a => a ≠ e.roleId }) ∧
    (memberPermissions g c u roles = memberPermissions g c u (g.knownRoles roles) ↔
      u = g.ownerId ∨
        ∀ f, Seat.Tips ⟨g, u, roles⟩ c.overwrites f →
          f ∈ Permissions.allChannel ∧
            Seat.Before ⟨g, u, g.knownRoles roles⟩ c.overwrites Permission.administrator.flag) := by
  refine ⟨Seat.inGuild_congr fun r hr => ((Seat.mem_known_roles ⟨g, u, roles⟩) r hr).symm,
    fun s e => s.userGuildPermissions?_dropRole e u, ?_⟩
  by_cases hu : u = g.ownerId
  · -- the owner holds everything, whatever the roles
    refine iff_of_true ?_ (.inl hu)
    unfold memberPermissions
    rw [Seat.inChannel_of_owner (s := ⟨g, u, roles⟩) hu, Seat.inChannel_of_owner (s := ⟨g, u, g.knownRoles roles⟩) hu]
  · rw [or_iff_right hu]
    exact Seat.inChannel_known_iff (s := ⟨g, u, roles⟩) hu c

/-! ## A deleted role that still grants -/

/-- everyone may look, and a role may write as far as its channel lets it -/
def dustyGuild : Guild :=
  ⟨⟨40, by decide, by decide⟩, "dusty", ⟨41, by decide, by decide⟩, none,
    [{ Role.stub ⟨40, by decide, by decide⟩ with permissions := .single .viewChannel },
      Role.stub ⟨42, by decide, by decide⟩],
    [{ Channel.stub ⟨43, by decide, by decide⟩ with
      overwrites := [⟨⟨42, by decide, by decide⟩, .role, .single .sendMessages, .empty⟩] }],
    [], [⟨some (User.stub ⟨44, by decide, by decide⟩), none, [⟨42, by decide, by decide⟩], none, false, false, false, none⟩],
    false⟩

/-- the role of the guild that lets its holders write is deleted -/
def dustyRemoval : RoleRemoval := ⟨⟨40, by decide, by decide⟩, ⟨42, by decide, by decide⟩⟩

/-- The role is gone, the member who lists it still writes, and without the id the member may only look. -/
theorem memberPermissions_unknown_role :
    let u : UserId := ⟨44, by decide, by decide⟩
    let c : ChannelId := ⟨43, by decide, by decide⟩
    let s := Cache.run .empty [.guildCreate dustyGuild, .roleDelete dustyRemoval]
    s.role? dustyRemoval.guildId dustyRemoval.roleId = none ∧
    s.userChannelPermissions? u c = some (.ofList [.viewChannel, .sendMessages]) ∧
    ∃ g ch, s.guild? dustyRemoval.guildId = some g ∧ s.channel? c = some ch ∧
      memberPermissions g ch u [dustyRemoval.roleId] = .ofList [.viewChannel, .sendMessages] ∧
      memberPermissions g ch u (g.knownRoles [dustyRemoval.roleId]) = .single .viewChannel := by
  intro u c s
  exact ⟨by decide, by decide, _, _, rfl, rfl, by decide, by decide⟩

end InteractionKit
