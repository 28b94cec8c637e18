import InteractionKit.Proofs.Access.Layers
import InteractionKit.Proofs.Lists
/-
The order of lists does not count for access.

The roles of a guild, the overwrites of a channel and the ids that a member lists come in some order. Access looks up
single entries by their id and takes all others together. Where no id stands twice a look-up finds the same entry in any
order, and what is taken together depends on nothing but what is there.

- `guildPermissions_reordered`: roles of the guild and listed ids in another order.
- `applyOverwrites_reordered`: overwrites and listed ids in another order, with a user and without.
- `permissions_reordered`: access in the guild and in a channel, of users and of members.
-/
namespace InteractionKit

/-- what is united depends on the sets that are there, not on their order or on how often they are -/
theorem Permissions.unions_congr {as bs : List Permissions} (h : ∀ a, a ∈ as ↔ a ∈ bs) : unions as = unions bs := by
  refine ext_flags fun f => ?_
  simp only [mem_unions, h]

/-! ## Roles -/

section Reordered

variable {g : Guild} {rs : List Role} {os os' : List Overwrite} {ids ids' : List RoleId}

theorem Seat.held_reordered (hrs : g.roles.Perm rs) (hnodup : (g.roles.map Role.id).Nodup)
    (hids : ∀ a, a ∈ ids ↔ a ∈ ids') (u : UserId) (f : Flag) :
    Held ⟨{ g with roles := rs }, u, ids'⟩ f ↔ Held ⟨g, u, ids⟩ f := by
  have heveryone : g.roles.find? (fun r => r.id = g.id.cast) = rs.find? fun r => r.id = g.id.cast :=
    find?_of_perm hrs hnodup fun r hr => of_decide_eq_true hr
  unfold Held
  rw [heveryone]
  simp only [hrs.mem_iff, hids]

theorem guildPermissions_reordered (hrs : g.roles.Perm rs) (hnodup : (g.roles.map Role.id).Nodup)
    (hids : ∀ a, a ∈ ids ↔ a ∈ ids') : guildPermissions { g with roles := rs } ids' = guildPermissions g ids := by
  have hheld (f : Flag) := Seat.held_reordered hrs hnodup hids g.ownerId f
  refine Permissions.ext_flags fun f => ?_
  rw [mem_guildPermissions ⟨{ g with roles := rs }, g.ownerId, ids'⟩, mem_guildPermissions ⟨g, g.ownerId, ids⟩]
  unfold Seat.Base
  rw [hheld, hheld]

/-! ## Overwrites -/

theorem everyoneOverwrite?_of_perm (hos : os.Perm os') (hnodup : (os.map Overwrite.id).Nodup) (g : Guild) :
    everyoneOverwrite? g os = everyoneOverwrite? g os' :=
  find?_of_perm hos hnodup fun _ ho => of_decide_eq_true ho

theorem memberOverwrite?_of_perm (hos : os.Perm os') (hnodup : (os.map Overwrite.id).Nodup) (u : UserId) :
    memberOverwrite? u os = memberOverwrite? u os' :=
  find?_of_perm hos hnodup fun _ ho => (of_decide_eq_true ho).2

/-- one side of the overwrites of the listed roles, united -/
theorem unions_roleOverwrites_reordered (hos : os.Perm os') (hids : ∀ a, a ∈ ids ↔ a ∈ ids')
    (side : Overwrite → Permissions) :
    Permissions.unions ((roleOverwrites ids os).map side) = Permissions.unions ((roleOverwrites ids' os').map side) := by
  refine Permissions.unions_congr fun a => ?_
  simp only [roleOverwrites, List.mem_map, List.mem_filter, hos.mem_iff, hids]

theorem applyOverwrites_reordered (hos : os.Perm os') (hnodup : (os.map Overwrite.id).Nodup)
    (hids : ∀ a, a ∈ ids ↔ a ∈ ids') (g : Guild) (user : Option UserId) (base : Permissions) :
    applyOverwrites { g with roles := rs } os' user ids' base = applyOverwrites g os user ids base := by
  have heveryone : everyoneOverwrite? { g with roles := rs } os' = everyoneOverwrite? g os :=
    (everyoneOverwrite?_of_perm hos hnodup g).symm
  have hmember : (user.bind fun u => memberOverwrite? u os') = user.bind fun u => memberOverwrite? u os := by
    simp only [memberOverwrite?_of_perm hos hnodup]
  have hroles (side : Overwrite → Permissions) := unions_roleOverwrites_reordered hos hids side
  simp only [applyOverwrites, heveryone, hmember, hroles]

end Reordered

/-! ## Main result -/

/-- **Order.** In a guild whose roles have ids of their own, and a channel whose overwrites have, nobody gains or loses a
permission when the roles, the overwrites or the listed ids are put in another order, or when ids are listed again: not
in the guild, not in the channel, not by a user's id and not as a member, with a user or without. -/
theorem permissions_reordered {g : Guild} {c : Channel} {rs : List Role} {os : List Overwrite}
    (hrs : g.roles.Perm rs) (hos : c.overwrites.Perm os) (hroles : (g.roles.map Role.id).Nodup)
    (hoverwrites : (c.overwrites.map Overwrite.id).Nodup) :
    (∀ (u : UserId) (ids ids' : List RoleId), (∀ a, a ∈ ids ↔ a ∈ ids') →
      Seat.inGuild ⟨{ g with roles := rs }, u, ids'⟩ = Seat.inGuild ⟨g, u, ids⟩ ∧
      memberPermissions { g with roles := rs } { c with overwrites := os } u ids' = memberPermissions g c u ids) ∧
    (∀ (m : Member) (ids' : List RoleId), (∀ a, a ∈ m.roles ↔ a ∈ ids') →
      channelPermissions { g with roles := rs } { c with overwrites := os } { m with roles := ids' } =
        channelPermissions g c m) := by
  have hmember (u : UserId) {ids ids' : List RoleId} (hids : ∀ a, a ∈ ids ↔ a ∈ ids') :
      memberPermissions { g with roles := rs } { c with overwrites := os } u ids' = memberPermissions g c u ids := by
    unfold memberPermissions Seat.inChannel
    rw [guildPermissions_reordered hrs hroles hids, applyOverwrites_reordered hos hoverwrites hids]
    rfl
  refine ⟨fun u ids ids' hids => ⟨?_, hmember u hids⟩, fun m ids' hids => ?_⟩
  · unfold Seat.inGuild
    rw [guildPermissions_reordered hrs hroles hids]
    rfl
  · unfold channelPermissions
    cases m.user with
    | some u => exact hmember u.id hids
    | none =>
      dsimp only
      rw [guildPermissions_reordered hrs hroles hids, applyOverwrites_reordered hos hoverwrites hids]

/-! ## A guild in two orders -/

def choirId : GuildId := ⟨107, by decide, by decide⟩

def altoId : RoleId := ⟨108, by decide, by decide⟩

def bassId : RoleId := ⟨109, by decide, by decide⟩

def singer : UserId := ⟨110, by decide, by decide⟩

/-- everyone may look, and each voice has a permission of its own -/
def choir : Guild :=
  ⟨choirId, "choir", ⟨111, by decide, by decide⟩, none,
    [{ Role.stub choirId.cast with permissions := .single .viewChannel },
      { Role.stub altoId with permissions := .single .speak },
      { Role.stub bassId with permissions := .single .connect }], [], [], [], false⟩

/-- a channel where one voice is denied what the other is allowed, and the singer may not write -/
def rehearsal : Channel :=
  { Channel.stub ⟨112, by decide, by decide⟩ with
    overwrites :=
      [⟨choirId.cast, .role, .single .sendMessages, .single .viewChannel⟩,
        .forRole altoId (.single .viewChannel) (.single .connect),
        .forRole bassId (.single .connect) (.ofList [.viewChannel, .speak]),
        .forMember singer .empty (.single .sendMessages)] }

/-- The singer of both voices may look and connect, in whatever order the lists come. -/
theorem permissions_reordered_choir :
    let turned := { choir with roles := choir.roles.reverse }
    let ch := { rehearsal with overwrites := rehearsal.overwrites.reverse }
    choir.roles.Perm choir.roles.reverse ∧ rehearsal.overwrites.Perm rehearsal.overwrites.reverse ∧
    (choir.roles.map Role.id).Nodup ∧ (rehearsal.overwrites.map Overwrite.id).Nodup ∧
    (∀ a, a ∈ [altoId, bassId] ↔ a ∈ [bassId, altoId, bassId]) ∧
    memberPermissions turned ch singer [bassId, altoId, bassId] =
      memberPermissions choir rehearsal singer [altoId, bassId] ∧
    memberPermissions choir rehearsal singer [altoId, bassId] = .ofList [.viewChannel, .connect] := by
  intro turned ch
  have hrs : choir.roles.Perm choir.roles.reverse := (List.reverse_perm _).symm
  have hos : rehearsal.overwrites.Perm rehearsal.overwrites.reverse := (List.reverse_perm _).symm
  have hroles : (choir.roles.map Role.id).Nodup := by decide
  have hoverwrites : (rehearsal.overwrites.map Overwrite.id).Nodup := by decide
  have hids : ∀ a, a ∈ [altoId, bassId] ↔ a ∈ [bassId, altoId, bassId] := by
    intro a
    simp only [List.mem_cons, List.not_mem_nil, or_false]
    exact ⟨fun h => h.symm.imp_right .inl, fun h => h.elim .inr id⟩
  refine ⟨hrs, hos, hroles, hoverwrites, hids, ?_, by decide⟩
  exact ((permissions_reordered hrs hos hroles hoverwrites).1 singer [altoId, bassId] [bassId, altoId, bassId] hids).2

end InteractionKit
