import InteractionKit.Access
import InteractionKit.Proofs.Permissions.Bits
/-
The permissions of a member, flag by flag.

Access is computed on whole words. Here it is read for a single flag, whether it has a name or not: the roles hold it or
not, and each layer of overwrites, from the inside out, allows it, or leaves it as it was unless it denies it. The layers
of everyone and of the member are the first overwrite that fits; the layer of the roles is all that fit together.

- `Layer`: what a layer allows and denies; `Layer.leaves`: a flag under it.
- `Seat.Held`, `Seat.Base`: what the roles give, without and with the raise of administrators.
- `Seat.Before`: the flag under the three layers, before administrators are raised again.
- `memberPermissions_by_flag`: the permissions in a channel are exactly these.
- `memberPermissions_overlapping`: a channel where the layers disagree on a flag.
-/
namespace InteractionKit

/-! ## Layers -/

/-- the flags that a layer of overwrites allows and those it denies; both may hold of one flag -/
structure Layer where
  allows : Flag → Prop
  denies : Flag → Prop

namespace Layer

/-- whether a flag is there under the layer: it is allowed, or not denied and there below -/
def leaves (l : Layer) (below : Flag → Prop) (f : Flag) : Prop := l.allows f ∨ ¬ l.denies f ∧ below f

/-- the layer of an overwrite, which does nothing if there is none -/
def ofFirst (o : Option Overwrite) : Layer :=
  ⟨fun f => ∃ w, o = some w ∧ f ∈ w.allow, fun f => ∃ w, o = some w ∧ f ∈ w.deny⟩

/-- the layer of all overwrites that fit, together -/
def ofEvery (os : List Overwrite) (fits : Overwrite → Prop) : Layer :=
  ⟨fun f => ∃ w ∈ os, fits w ∧ f ∈ w.allow, fun f => ∃ w ∈ os, fits w ∧ f ∈ w.deny⟩

theorem leaves_congr (l : Layer) {below below' : Flag → Prop} (f : Flag) (h : below f ↔ below' f) :
    l.leaves below f ↔ l.leaves below' f := by
  unfold leaves
  rw [h]

end Layer

/-! ## What one step does to a flag -/

theorem Permissions.mem_overwrite {a allow deny : Permissions} {f : Flag} :
    f ∈ a.overwrite allow deny ↔ f ∈ allow ∨ f ∉ deny ∧ f ∈ a := by
  unfold overwrite
  rw [mem_union, mem_diff, and_comm, or_comm]

theorem Permissions.mem_overwriteBy (a : Permissions) (o : Option Overwrite) (f : Flag) :
    f ∈ a.overwriteBy o ↔ (Layer.ofFirst o).leaves (· ∈ a) f := by
  cases o with
  | none => simp [overwriteBy, Layer.leaves, Layer.ofFirst]
  | some w =>
    unfold overwriteBy
    rw [mem_overwrite]
    simp [Layer.leaves, Layer.ofFirst]

theorem Permissions.mem_raise {a b : Permissions} {f : Flag} :
    f ∈ a.raise b ↔ f ∈ a ∨ Permission.administrator.flag ∈ a ∧ f ∈ b := by
  unfold raise
  split
  · next h =>
    rw [has_iff] at h
    rw [mem_union, and_iff_right h]
  · next h =>
    rw [has_iff] at h
    simp [h]

/-! ## The reference -/

namespace Seat

variable (s : Seat)

/-- the first role with the id of the guild has the flag, or a role of the guild that the member holds -/
def Held (f : Flag) : Prop :=
  (∃ r, s.guild.roles.find? (fun r => r.id = s.guild.id.cast) = some r ∧ f ∈ r.permissions) ∨
    ∃ r ∈ s.guild.roles, r.id ∈ s.roles ∧ f ∈ r.permissions

/-- the flag is held, or an administrator is raised to it -/
def Base (f : Flag) : Prop := s.Held f ∨ s.Held Permission.administrator.flag ∧ f ∈ Permissions.all

/-- the first overwrite with the id of the guild, whatever its kind -/
def everyoneLayer (os : List Overwrite) : Layer := .ofFirst (os.find? fun o => o.id = s.guild.id.cast)

/-- every overwrite for a role that the member holds -/
def rolesLayer (os : List Overwrite) : Layer := .ofEvery os fun o => o.kind = .role ∧ o.id.cast ∈ s.roles

/-- the first overwrite for the member -/
def memberLayer (os : List Overwrite) : Layer := .ofFirst (os.find? fun o => o.kind = .member ∧ o.id = s.user.cast)

/-- the flag under the overwrites of a channel, before administrators are raised again -/
def Before (os : List Overwrite) (f : Flag) : Prop :=
  (s.memberLayer os).leaves ((s.rolesLayer os).leaves ((s.everyoneLayer os).leaves s.Base)) f

end Seat

/-! ## Access meets the reference -/

theorem mem_rolePermissions (s : Seat) (f : Flag) : f ∈ rolePermissions s.guild s.roles ↔ s.Held f := by
  unfold rolePermissions Seat.Held
  rw [← List.foldl_filter, Permissions.mem_foldl_union]
  refine or_congr ?_ ?_
  · rw [Guild.everyoneRole?, Guild.role?]
    cases s.guild.roles.find? fun r => r.id = s.guild.id.cast with
    | none => simp
    | some r => simp
  · simp [List.mem_filter, and_assoc]

theorem mem_guildPermissions (s : Seat) (f : Flag) : f ∈ guildPermissions s.guild s.roles ↔ s.Base f := by
  unfold guildPermissions Seat.Base
  rw [Permissions.mem_raise, mem_rolePermissions, mem_rolePermissions]

/-- the union of one side of the overwrites that fit the roles -/
theorem mem_unions_roleOverwrites (s : Seat) (os : List Overwrite) (side : Overwrite → Permissions) (f : Flag) :
    f ∈ Permissions.unions ((roleOverwrites s.roles os).map side) ↔
      ∃ w ∈ os, (w.kind = .role ∧ w.id.cast ∈ s.roles) ∧ f ∈ side w := by
  rw [Permissions.mem_unions]
  constructor
  · rintro ⟨a, ha, hf⟩
    obtain ⟨w, hw, rfl⟩ := List.mem_map.1 ha
    obtain ⟨hmem, hfits⟩ := List.mem_filter.1 hw
    exact ⟨w, hmem, of_decide_eq_true hfits, hf⟩
  · rintro ⟨w, hmem, hfits, hf⟩
    exact ⟨side w, List.mem_map.2 ⟨w, List.mem_filter.2 ⟨hmem, decide_eq_true hfits⟩, rfl⟩, hf⟩

theorem mem_overwrite_roles (s : Seat) (os : List Overwrite) (a : Permissions) (f : Flag) :
    f ∈ a.overwrite (.unions ((roleOverwrites s.roles os).map Overwrite.allow))
        (.unions ((roleOverwrites s.roles os).map Overwrite.deny)) ↔
      (s.rolesLayer os).leaves (· ∈ a) f := by
  rw [Permissions.mem_overwrite, mem_unions_roleOverwrites, mem_unions_roleOverwrites]
  rfl

theorem mem_applyOverwrites (s : Seat) (os : List Overwrite) (f : Flag) :
    f ∈ applyOverwrites s.guild os (some s.user) s.roles (guildPermissions s.guild s.roles) ↔
      s.Before os f ∨ s.Before os Permission.administrator.flag ∧ f ∈ Permissions.allChannel := by
  -- the layers from the outside in; each step only looks at the flag itself
  have hbefore (f : Flag) :
      f ∈ (((guildPermissions s.guild s.roles).overwriteBy (everyoneOverwrite? s.guild os)).overwrite
          (.unions ((roleOverwrites s.roles os).map Overwrite.allow))
          (.unions ((roleOverwrites s.roles os).map Overwrite.deny))).overwriteBy (memberOverwrite? s.user os) ↔
        s.Before os f := by
    rw [Permissions.mem_overwriteBy]
    refine Layer.leaves_congr _ f ?_
    rw [mem_overwrite_roles]
    refine Layer.leaves_congr _ f ?_
    rw [Permissions.mem_overwriteBy]
    exact Layer.leaves_congr _ f (mem_guildPermissions s f)
  unfold applyOverwrites
  rw [Permissions.mem_raise]
  exact or_congr (hbefore f) (and_congr_left' (hbefore _))

namespace Seat

/-- past the owner the overwrites of the channel decide -/
theorem inChannel_of_not_owner {s : Seat} (hs : s.user ≠ s.guild.ownerId) (c : Channel) :
    s.inChannel c =
      applyOverwrites s.guild c.overwrites (some s.user) s.roles (guildPermissions s.guild s.roles) := by
  have howner : s.isOwner = false := decide_eq_false hs
  unfold inChannel
  rw [howner]
  rfl

/-- the flags in a channel of a member who is not the owner -/
theorem mem_inChannel {s : Seat} (hs : s.user ≠ s.guild.ownerId) (c : Channel) (f : Flag) :
    f ∈ s.inChannel c ↔
      s.Before c.overwrites f ∨
        s.Before c.overwrites Permission.administrator.flag ∧ f ∈ Permissions.allChannel := by
  rw [inChannel_of_not_owner hs]
  exact mem_applyOverwrites s c.overwrites f

theorem inChannel_of_owner {s : Seat} (hs : s.user = s.guild.ownerId) (c : Channel) : s.inChannel c = .all := by
  have howner : s.isOwner = true := decide_eq_true hs
  unfold inChannel
  rw [howner]
  rfl

end Seat

/-- **Access by flags.** A member who is not the owner has in a channel exactly the flags that are left under the three
layers of overwrites, and with the flag of administrators among them every channel permission. The owner has all
permissions, whatever the channel and the roles. -/
theorem memberPermissions_by_flag (g : Guild) (c : Channel) (u : UserId) (roles : List RoleId) :
    (u ≠ g.ownerId → ∀ f : Flag, f ∈ memberPermissions g c u roles ↔
      Seat.Before ⟨g, u, roles⟩ c.overwrites f ∨
        Seat.Before ⟨g, u, roles⟩ c.overwrites Permission.administrator.flag ∧ f ∈ Permissions.allChannel) ∧
    (u = g.ownerId → memberPermissions g c u roles = .all) := by
  constructor
  · intro hu f
    have howner : Seat.isOwner ⟨g, u, roles⟩ = false := decide_eq_false hu
    unfold memberPermissions Seat.inChannel
    rw [howner]
    exact mem_applyOverwrites ⟨g, u, roles⟩ c.overwrites f
  · intro hu
    have howner : Seat.isOwner ⟨g, u, roles⟩ = true := decide_eq_true hu
    unfold memberPermissions Seat.inChannel
    rw [howner]
    rfl

/-! ## Witness -/

/-- everyone may look and write, and one role holds a flag without a name -/
def quietGuild : Guild :=
  ⟨⟨10, by decide, by decide⟩, "quiet", ⟨11, by decide, by decide⟩, none,
    [{ Role.stub ⟨10, by decide, by decide⟩ with permissions := .ofList [.viewChannel, .sendMessages] },
      { Role.stub ⟨12, by decide, by decide⟩ with permissions := ⟨.twoPow 64 63⟩ }], [], [], [], false⟩

/-- everyone is silenced, a role may write although it is denied it as well, and one member may not look -/
def quietChannel : Channel :=
  { Channel.stub ⟨30, by decide, by decide⟩ with
    overwrites :=
      [⟨⟨10, by decide, by decide⟩, .role, .empty, .single .sendMessages⟩,
        ⟨⟨12, by decide, by decide⟩, .role, .single .sendMessages, .ofList [.sendMessages, .viewChannel]⟩,
        ⟨⟨12, by decide, by decide⟩, .role, .single .viewChannel, .empty⟩,
        ⟨⟨7, by decide, by decide⟩, .member, .empty, .single .viewChannel⟩] }

/-- The silence of everyone is lifted by the role, the look is lost to the member's own overwrite, and the flag without
a name passes through. -/
theorem memberPermissions_overlapping :
    let u : UserId := ⟨7, by decide, by decide⟩
    let roles : List RoleId := [⟨12, by decide, by decide⟩, ⟨99, by decide, by decide⟩]
    u ≠ quietGuild.ownerId ∧
    (∀ f : Flag, f ∈ memberPermissions quietGuild quietChannel u roles ↔
      Seat.Before ⟨quietGuild, u, roles⟩ quietChannel.overwrites f ∨
        Seat.Before ⟨quietGuild, u, roles⟩ quietChannel.overwrites Permission.administrator.flag ∧
          f ∈ Permissions.allChannel) ∧
    memberPermissions quietGuild quietChannel u roles = .single .sendMessages ∪ ⟨.twoPow 64 63⟩ ∧
    memberPermissions quietGuild quietChannel quietGuild.ownerId [] = .all := by
  intro u roles
  have hu : u ≠ quietGuild.ownerId := by decide
  refine ⟨hu, (memberPermissions_by_flag quietGuild quietChannel u roles).1 hu, by decide, ?_⟩
  exact (memberPermissions_by_flag quietGuild quietChannel quietGuild.ownerId []).2 rfl

end InteractionKit
