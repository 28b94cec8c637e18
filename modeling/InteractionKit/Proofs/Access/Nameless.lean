import InteractionKit.Proofs.Access.Layers
import Mathlib.Tactic.ByContra
/-
Members who come without a user.

Whether such a member is the owner, or has an overwrite of their own, cannot be told, so access is worked out for them
on a path of its own, from the roles alone. On the main path a user counts in a channel twice: as the owner, and by the
first overwrite of the kind of members that has their id. So the two paths agree for everybody for whom neither counts,
and one user may stand for another as long as the first overwrites for both say the same. Overwrites of other kinds do
not tell users apart, whatever number they carry.

- `ownTerms?`: what the first overwrite for a user allows and denies.
- `applyOverwrites_congr`: the user counts under the overwrites of a channel by these terms alone.
- `ownTerms?_eq_none_iff`: there are none just if no overwrite is for the user.
- `channelPermissions_nameless`: the two paths.
- `access_by_name`: what a user's id changes in a channel.
-/
namespace InteractionKit

/-! ## A user's own overwrite -/

/-- what an overwrite allows, and what it denies -/
def Overwrite.terms (o : Overwrite) : Permissions × Permissions := (o.allow, o.deny)

/-- the terms of the first overwrite for a user -/
def ownTerms? (user : UserId) (os : List Overwrite) : Option (Permissions × Permissions) :=
  (memberOverwrite? user os).map Overwrite.terms

theorem memberOverwrite?_eq_none_iff {u : UserId} {os : List Overwrite} :
    memberOverwrite? u os = none ↔ ∀ o ∈ os, o.kind = .member → o.id ≠ u.cast := by
  simp [memberOverwrite?, List.find?_eq_none]

theorem ownTerms?_eq_none_iff {u : UserId} {os : List Overwrite} :
    ownTerms? u os = none ↔ ∀ o ∈ os, o.kind = .member → o.id ≠ u.cast := by
  rw [ownTerms?, Option.map_eq_none_iff, memberOverwrite?_eq_none_iff]

/-- overwrites with the same terms do the same -/
theorem Permissions.overwriteBy_congr {o o' : Option Overwrite} (h : o.map Overwrite.terms = o'.map Overwrite.terms)
    (a : Permissions) : a.overwriteBy o = a.overwriteBy o' := by
  cases o with
  | none =>
    rw [Option.map_none, eq_comm, Option.map_eq_none_iff] at h
    rw [h]
  | some w =>
    rw [Option.map_some, eq_comm, Option.map_eq_some_iff] at h
    obtain ⟨w', rfl, hterms⟩ := h
    obtain ⟨hallow, hdeny⟩ := Prod.mk.inj hterms
    simp only [overwriteBy, hallow, hdeny]

theorem applyOverwrites_congr (g : Guild) {os : List Overwrite} (user user' : Option UserId)
    (h : (user.bind fun u => ownTerms? u os) = user'.bind fun u => ownTerms? u os) (roles : List RoleId)
    (base : Permissions) : applyOverwrites g os user roles base = applyOverwrites g os user' roles base := by
  have hterms (user : Option UserId) : (user.bind fun u => memberOverwrite? u os).map Overwrite.terms =
      user.bind fun u => ownTerms? u os := Option.map_bind
  unfold applyOverwrites
  dsimp only
  rw [Permissions.overwriteBy_congr ((hterms user).trans (h.trans (hterms user').symm))]

/-! ## The two paths -/

section Paths

variable {g : Guild} {c : Channel} {u v : UserId}

/-- the main path, past the owner -/
theorem memberPermissions_of_not_owner (hu : u ≠ g.ownerId) (roles : List RoleId) :
    memberPermissions g c u roles = applyOverwrites g c.overwrites (some u) roles (guildPermissions g roles) :=
  Seat.inChannel_of_not_owner (s := ⟨g, u, roles⟩) hu c

/-- who is not the owner counts by the terms of their own overwrite -/
theorem memberPermissions_congr (hu : u ≠ g.ownerId) (hv : v ≠ g.ownerId)
    (h : ownTerms? u c.overwrites = ownTerms? v c.overwrites) (roles : List RoleId) :
    memberPermissions g c u roles = memberPermissions g c v roles := by
  rw [memberPermissions_of_not_owner hu, memberPermissions_of_not_owner hv]
  exact applyOverwrites_congr g (some u) (some v) h roles _

/-- without a user a member has what anyone has with the same roles and no overwrite of their own -/
theorem channelPermissions_nameless {m : Member} (hm : m.user = none) (hu : u ≠ g.ownerId)
    (hown : ownTerms? u c.overwrites = none) : channelPermissions g c m = memberPermissions g c u m.roles := by
  rw [memberPermissions_of_not_owner hu, channelPermissions, hm]
  exact applyOverwrites_congr g none (some u) hown.symm m.roles _

end Paths

/-! ## Main result -/

/-- **Access by name.** A member without a user has in a channel what anyone has who holds the same roles, is not the
owner, and has no overwrite of the kind of members. For two users who are not the owner access is the same where their
first overwrites say the same; so another id in the place of a member's own changes access only in a channel that has an
overwrite of the kind of members for the one or for the other. -/
theorem access_by_name (g : Guild) (c : Channel) :
    (∀ (m : Member) (u : UserId), m.user = none → u ≠ g.ownerId →
      (∀ o ∈ c.overwrites, o.kind = .member → o.id ≠ u.cast) →
      channelPermissions g c m = memberPermissions g c u m.roles) ∧
    (∀ (u v : UserId) (roles : List RoleId), u ≠ g.ownerId → v ≠ g.ownerId →
      ownTerms? u c.overwrites = ownTerms? v c.overwrites →
      memberPermissions g c u roles = memberPermissions g c v roles) ∧
    ∀ (m : Member) (x : User) (u : UserId), m.user = some x → x.id ≠ g.ownerId → u ≠ g.ownerId →
      channelPermissions g c { m with user := some { x with id := u } } ≠ channelPermissions g c m →
      ∃ o ∈ c.overwrites, o.kind = .member ∧ (o.id = x.id.cast ∨ o.id = u.cast) := by
  refine ⟨fun m u hm hu hnone => ?_, fun u v roles hu hv h => memberPermissions_congr hu hv h roles, ?_⟩
  · exact channelPermissions_nameless hm hu (ownTerms?_eq_none_iff.2 hnone)
  · intro m x u hm hx hu hchanged
    by_contra hnone
    have hfree (w : UserId) (hw : w = x.id ∨ w = u) : ownTerms? w c.overwrites = none := by
      refine ownTerms?_eq_none_iff.2 fun o ho hkind hid => hnone ⟨o, ho, hkind, ?_⟩
      rcases hw with rfl | rfl
      · exact .inl hid
      · exact .inr hid
    have hsame : ownTerms? u c.overwrites = ownTerms? x.id c.overwrites :=
      (hfree u (.inr rfl)).trans (hfree x.id (.inl rfl)).symm
    refine hchanged ?_
    unfold channelPermissions
    rw [hm]
    exact memberPermissions_congr hu hx hsame m.roles

/-! ## A crew member without a name -/

def ferryId : GuildId := ⟨115, by decide, by decide⟩

def crewId : RoleId := ⟨116, by decide, by decide⟩

def deckhand : UserId := ⟨117, by decide, by decide⟩

def stowaway : UserId := ⟨118, by decide, by decide⟩

/-- everyone may look, and the crew may write -/
def ferry : Guild :=
  ⟨ferryId, "ferry", ⟨119, by decide, by decide⟩, none,
    [{ Role.stub ferryId.cast with permissions := .single .viewChannel },
      { Role.stub crewId with permissions := .single .sendMessages }], [], [], [], false⟩

/-- a channel with an overwrite of the kind of roles that carries the number of the deckhand, one of the kind of members
that carries the number of the guild, and one for the stowaway -/
def deck : Channel :=
  { Channel.stub ⟨120, by decide, by decide⟩ with
    overwrites :=
      [⟨deckhand.cast, .role, .empty, .ofList [.viewChannel, .sendMessages]⟩,
        ⟨ferryId.cast, .member, .single .connect, .empty⟩,
        .forMember stowaway .empty (.single .sendMessages)] }

/-- one of the crew, without a user -/
def crewMember : Member := ⟨none, none, [crewId], none, false, false, false, none⟩

/-- The nameless crew member may do what the deckhand may, whom the overwrite of the kind of roles does not reach. The
stowaway in the same place may not write, for there is an overwrite for the stowaway. -/
theorem access_by_name_ferry :
    let named : Member := { crewMember with user := some (User.stub deckhand) }
    let replaced : Member := { crewMember with user := some { User.stub deckhand with id := stowaway } }
    (deckhand ≠ ferry.ownerId ∧ ∀ o ∈ deck.overwrites, o.kind = .member → o.id ≠ deckhand.cast) ∧
    channelPermissions ferry deck crewMember = memberPermissions ferry deck deckhand [crewId] ∧
    channelPermissions ferry deck crewMember = .ofList [.viewChannel, .sendMessages, .connect] ∧
    stowaway ≠ ferry.ownerId ∧ channelPermissions ferry deck replaced ≠ channelPermissions ferry deck named ∧
    ∃ o ∈ deck.overwrites, o.kind = .member ∧ (o.id = deckhand.cast ∨ o.id = stowaway.cast) := by
  intro named replaced
  have hdeckhand : deckhand ≠ ferry.ownerId := by decide
  have hstowaway : stowaway ≠ ferry.ownerId := by decide
  have hnone : ∀ o ∈ deck.overwrites, o.kind = .member → o.id ≠ deckhand.cast := by decide
  have hchanged : channelPermissions ferry deck replaced ≠ channelPermissions ferry deck named := by decide
  obtain ⟨hnameless, -, hreplaced⟩ := access_by_name ferry deck
  refine ⟨⟨hdeckhand, hnone⟩, hnameless crewMember deckhand rfl hdeckhand hnone, by decide, hstowaway, hchanged, ?_⟩
  exact hreplaced named (User.stub deckhand) stowaway rfl hdeckhand hstowaway hchanged

end InteractionKit
