import InteractionKit.Proofs.Access.Owner
import InteractionKit.Proofs.Lists
/-
Granting more takes nothing away.

Every step of access keeps the order of sets: a layer of overwrites leaves in more where there is more below it, and the
raise of administrators, which comes before the layers and again after them, never takes. So a member who holds more by
roles may do more, in the guild and in every channel whose layers stay as they were. One more role may bring overwrites
of its own into a channel; where it brings none, the layers do stay.

- `Seat.Outgrows`: a seat whose roles give all that the roles of another give, for one user in one guild.
- `Outgrows.before`: under the same layers it has each flag that the other has.
- `Outgrows.inGuild`, `Outgrows.inChannel`: it has each permission.
- `Role.Widened`: a role with nothing changed but more permissions.
- `granting_takes_nothing`: one more role, and roles with more permissions.
-/
namespace InteractionKit

/-! ## Layers -/

/-- a layer leaves in what there is more of below it -/
theorem Layer.leaves_mono (l : Layer) {below below' : Flag → Prop} {f : Flag} (h : below f → below' f)
    (hf : l.leaves below f) : l.leaves below' f :=
  hf.imp_right (And.imp_right h)

/-- the layer of all overwrites that fit is told by which of them fit -/
theorem Layer.ofEvery_congr {os : List Overwrite} {fits fits' : Overwrite → Prop} (h : ∀ o ∈ os, fits o ↔ fits' o) :
    Layer.ofEvery os fits = Layer.ofEvery os fits' := by
  have hside (side : Overwrite → Permissions) :
      (fun f => ∃ w ∈ os, fits w ∧ f ∈ side w) = fun f => ∃ w ∈ os, fits' w ∧ f ∈ side w := by
    funext f
    exact propext (exists_congr fun w => and_congr_right fun hw => and_congr_left' (h w hw))
  unfold ofEvery
  rw [hside Overwrite.allow, hside Overwrite.deny]

namespace Seat

/-! ## Seats that hold more -/

/-- the roles of `t` give all that the roles of `s` give, to the same user of a guild with the same id and owner -/
structure Outgrows (t s : Seat) : Prop where
  user : t.user = s.user
  guildId : t.guild.id = s.guild.id
  owner : t.guild.ownerId = s.guild.ownerId
  held : ∀ f, s.Held f → t.Held f

variable {s t : Seat}

theorem Outgrows.base (h : t.Outgrows s) {f : Flag} (hf : s.Base f) : t.Base f :=
  hf.imp (h.held f) (And.imp_left (h.held _))

/-- the layer of the roles is the same for lists that share the ids with an overwrite -/
theorem rolesLayer_congr {os : List Overwrite}
    (h : ∀ o ∈ os, o.kind = .role → (o.id.cast ∈ t.roles ↔ o.id.cast ∈ s.roles)) :
    t.rolesLayer os = s.rolesLayer os :=
  Layer.ofEvery_congr fun o ho => and_congr_right fun hkind => h o ho hkind

theorem Outgrows.before (h : t.Outgrows s) {os : List Overwrite} (hroles : t.rolesLayer os = s.rolesLayer os)
    {f : Flag} (hf : s.Before os f) : t.Before os f := by
  have heveryone : t.everyoneLayer os = s.everyoneLayer os := by rw [everyoneLayer, everyoneLayer, h.guildId]
  have hmember : t.memberLayer os = s.memberLayer os := by rw [memberLayer, memberLayer, h.user]
  unfold Before
  rw [heveryone, hroles, hmember]
  exact Layer.leaves_mono _ (Layer.leaves_mono _ (Layer.leaves_mono _ h.base)) hf

theorem Outgrows.owns_iff (h : t.Outgrows s) : t.user = t.guild.ownerId ↔ s.user = s.guild.ownerId := by
  rw [h.user, h.owner]

theorem Outgrows.inGuild (h : t.Outgrows s) : t.inGuild.contains s.inGuild = true := by
  rw [Permissions.contains_iff]
  intro f hf
  by_cases hs : s.user = s.guild.ownerId
  · rwa [inGuild_of_owner (h.owns_iff.2 hs), ← inGuild_of_owner hs]
  · rw [inGuild_of_not_owner hs, mem_guildPermissions] at hf
    rw [inGuild_of_not_owner fun ht => hs (h.owns_iff.1 ht), mem_guildPermissions]
    exact h.base hf

theorem Outgrows.inChannel (h : t.Outgrows s) {c : Channel}
    (hroles : ∀ o ∈ c.overwrites, o.kind = .role → (o.id.cast ∈ t.roles ↔ o.id.cast ∈ s.roles)) :
    (t.inChannel c).contains (s.inChannel c) = true := by
  rw [Permissions.contains_iff]
  intro f hf
  by_cases hs : s.user = s.guild.ownerId
  · rwa [inChannel_of_owner (h.owns_iff.2 hs), ← inChannel_of_owner hs c]
  · have hbefore {b : Flag} : s.Before c.overwrites b → t.Before c.overwrites b := h.before (rolesLayer_congr hroles)
    rw [mem_inChannel hs] at hf
    rw [mem_inChannel fun ht => hs (h.owns_iff.1 ht)]
    exact hf.imp hbefore (And.imp_left hbefore)

/-! ## One more role -/

theorem outgrows_of_more (g : Guild) (u : UserId) {ids ids' : List RoleId} (h : ids ⊆ ids') :
    Outgrows ⟨g, u, ids'⟩ ⟨g, u, ids⟩ := by
  refine ⟨rfl, rfl, rfl, fun f hf => hf.imp_right ?_⟩
  rintro ⟨r, hr, hids, hmem⟩
  exact ⟨r, hr, h hids, hmem⟩

end Seat

/-! ## Wider roles -/

/-- the role `r'` is `r` with the same permissions or more, and is the same otherwise -/
structure Role.Widened (r r' : Role) : Prop where
  same : r' = { r with permissions := r'.permissions }
  more : r'.permissions.contains r.permissions = true

theorem Role.Widened.id_eq {r r' : Role} (h : r.Widened r') : r'.id = r.id := by rw [h.same]

theorem Role.Widened.mem {r r' : Role} (h : r.Widened r') {f : Flag} (hf : f ∈ r.permissions) : f ∈ r'.permissions :=
  Permissions.contains_iff.1 h.more f hf

theorem Seat.outgrows_of_widened {g : Guild} {rs : List Role} (h : List.Forall₂ Role.Widened g.roles rs) (u : UserId)
    (ids : List RoleId) : Outgrows ⟨{ g with roles := rs }, u, ids⟩ ⟨g, u, ids⟩ := by
  have hsame : ∀ q q' : Role, q.Widened q' → decide (q'.id = g.id.cast) = decide (q.id = g.id.cast) := by
    intro q q' hq
    rw [hq.id_eq]
  refine ⟨rfl, rfl, rfl, fun f hf => ?_⟩
  rcases hf with ⟨r, hr, hmem⟩ | ⟨r, hr, hids, hmem⟩
  · obtain ⟨r', hr', hwide⟩ := forall₂_find? h hsame hr
    exact .inl ⟨r', hr', hwide.mem hmem⟩
  · obtain ⟨r', hr', hwide⟩ := (forall₂_exists_of_mem h).1 r hr
    exact .inr ⟨r', hr', hwide.id_eq ▸ hids, hwide.mem hmem⟩

/-! ## Main result -/

/-- **Granting takes nothing.** With one more role a member may do all that was allowed before, in the guild and in each
channel that has no overwrite for that role. With more permissions in the roles of the guild everyone may do all that was
allowed before, in the guild and in every channel. -/
theorem granting_takes_nothing (g : Guild) (u : UserId) :
    (∀ (before after : List RoleId) (r : RoleId),
      (Seat.inGuild ⟨g, u, before ++ r :: after⟩).contains (Seat.inGuild ⟨g, u, before ++ after⟩) = true ∧
      ∀ c : Channel, (∀ o ∈ c.overwrites, o.kind = .role → o.id ≠ r.cast) →
        (Seat.inChannel ⟨g, u, before ++ r :: after⟩ c).contains
          (Seat.inChannel ⟨g, u, before ++ after⟩ c) = true) ∧
    (∀ rs : List Role, List.Forall₂ Role.Widened g.roles rs → ∀ ids : List RoleId,
      (Seat.inGuild ⟨{ g with roles := rs }, u, ids⟩).contains (Seat.inGuild ⟨g, u, ids⟩) = true ∧
      ∀ c : Channel, (Seat.inChannel ⟨{ g with roles := rs }, u, ids⟩ c).contains
        (Seat.inChannel ⟨g, u, ids⟩ c) = true) := by
  constructor
  · intro before after r
    have hsub : before ++ after ⊆ before ++ r :: after := by
      intro a ha
      rcases List.mem_append.1 ha with ha | ha
      · exact List.mem_append_left _ ha
      · exact List.mem_append_right _ (List.mem_cons_of_mem _ ha)
    have houtgrows := Seat.outgrows_of_more g u hsub
    refine ⟨houtgrows.inGuild, fun c hc => houtgrows.inChannel fun o ho hkind => ?_⟩
    have hne : o.id.cast ≠ r := fun heq => hc o ho hkind (congrArg Id.cast heq)
    simp [hne]
  · intro rs hrs ids
    have houtgrows := Seat.outgrows_of_widened hrs u ids
    exact ⟨houtgrows.inGuild, fun c => houtgrows.inChannel fun _ _ _ => Iff.rfl⟩

/-! ## An administrator who is one no more -/

def clubId : GuildId := ⟨86, by decide, by decide⟩

def stewardId : RoleId := ⟨87, by decide, by decide⟩

def guest : UserId := ⟨88, by decide, by decide⟩

/-- everyone may look, and stewards are administrators -/
def club : Guild :=
  ⟨clubId, "club", ⟨89, by decide, by decide⟩, none,
    [{ Role.stub clubId.cast with permissions := .single .viewChannel },
      { Role.stub stewardId with permissions := .single .administrator }], [], [], [], false⟩

/-- a channel where nobody is an administrator by roles -/
def parlour : Channel :=
  { Channel.stub ⟨94, by decide, by decide⟩ with
    overwrites := [⟨clubId.cast, .role, .empty, .single .administrator⟩] }

/-- a channel that stewards may not see -/
def cloakroom : Channel :=
  { parlour with overwrites := parlour.overwrites ++ [.forRole stewardId .empty (.single .viewChannel)] }

/-- A guest who becomes a steward keeps what a guest has in the parlour, where stewards are no administrators. In the
cloakroom, which has an overwrite for stewards, the guest could look and the steward cannot. Stewards with one more
permission lose nothing there. -/
theorem granting_takes_nothing_steward :
    let wider := [{ Role.stub clubId.cast with permissions := .single .viewChannel },
      { Role.stub stewardId with permissions := .ofList [.administrator, .sendPolls] }]
    (∀ o ∈ parlour.overwrites, o.kind = .role → o.id ≠ stewardId.cast) ∧
    (Seat.inChannel ⟨club, guest, [stewardId]⟩ parlour).contains (Seat.inChannel ⟨club, guest, []⟩ parlour) = true ∧
    (Seat.inChannel ⟨club, guest, [stewardId]⟩ parlour).has .administrator = false ∧
    (Seat.inChannel ⟨club, guest, [stewardId]⟩ cloakroom).contains (Seat.inChannel ⟨club, guest, []⟩ cloakroom) = false ∧
    List.Forall₂ Role.Widened club.roles wider ∧
    (Seat.inChannel ⟨{ club with roles := wider }, guest, [stewardId]⟩ cloakroom).contains
      (Seat.inChannel ⟨club, guest, [stewardId]⟩ cloakroom) = true := by
  intro wider
  have hparlour : ∀ o ∈ parlour.overwrites, o.kind = .role → o.id ≠ stewardId.cast := by decide
  have hwider : List.Forall₂ Role.Widened club.roles wider :=
    .cons ⟨rfl, by decide⟩ (.cons ⟨rfl, by decide⟩ .nil)
  obtain ⟨hmore, hwide⟩ := granting_takes_nothing club guest
  refine ⟨hparlour, (hmore [] [] stewardId).2 parlour hparlour, by decide, by decide, hwider, ?_⟩
  exact (hwide wider hwider [stewardId]).2 cloakroom

end InteractionKit
