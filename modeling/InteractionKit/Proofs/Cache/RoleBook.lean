import InteractionKit.Proofs.Cache.Removal
/-
The roles of the known guilds against a book kept from the same events.

Every event revises the entry of one guild at most. The list of roles in an entry is changed in place: a role goes over
the first of its id or to the end, and a deleted one is taken out wherever it stands. Whoever asks for a role gets the
first of the id, so the lists behave as finite maps, and the state keeps the same answers as a book in which each guild
has such a map.

- `Event.revise`, `guild?_step`: what an event makes of the entry of a guild.
- `rolesOf`: a list of roles as a finite map, the first of an id counts.
- `rolesOf_putRole`, `rolesOf_dropRole`: the changes of a list are those of the map.
- `RoleBook`, `RoleBook.read`: the book of the roles of each guild, and what an event writes into it.
- `KeptBy`, `keptBy_step`, `keptBy_run`: the book and the state stay in step.
- `nodup_roles_run`: ids are not repeated, if no guild arrives with a repetition.
- `roles_refine_book`: what is known of a role is what the book says.
-/
namespace InteractionKit

/-! ## The entry of a guild -/

/-- the guild without the lists that have tables of their own -/
def Guild.bare (G : Guild) : Guild := { G with channels := [], threads := [], members := [] }

/-- what an event makes of the entry of a guild -/
def Event.revise (e : Event) (g : GuildId) (old : Option Guild) : Option Guild :=
  match e with
  | .guildCreate G | .guildUpdate G => if G.id = g then some G.bare else old
  | .guildDelete L =>
    if L.id = g then
      if L.unavailable then old.map fun G => { G with unavailable := true } else none
    else old
  | .roleCreate e | .roleUpdate e =>
    if e.guildId = g then old.map fun G => { G with roles := Cache.putRole e.role G.roles } else old
  | .roleDelete e =>
    if e.guildId = g then old.map fun G => { G with roles := G.roles.filter fun r => r.id ≠ e.roleId } else old
  | _ => old

namespace Cache

theorem putGuild_guilds (s : Cache) (G : Guild) : (s.putGuild G).guilds = s.guilds.insert G.id G.bare := by
  let t := (G.channels ++ G.threads).foldl (fun s ch => s.putChannel G.id ch) s
  have hchannels : t.guilds = s.guilds := guilds_of_besideChannels (putChannels_besideChannels s G.id _)
  have hmembers : (G.members.foldl (fun s m => s.putMember G.id m) t).guilds = t.guilds :=
    guilds_of_besideMembers (putMembers_besideMembers t G.id G.members)
  exact congrArg (·.insert G.id G.bare) (hmembers.trans hchannels)

theorem guild?_putGuild (s : Cache) (G : Guild) (g : GuildId) :
    (s.putGuild G).guild? g = if G.id = g then some G.bare else s.guild? g := by
  unfold guild?
  rw [putGuild_guilds, Table.get?_insert]
  simp only [eq_comm]

/-- the entry of a guild after it was changed in place -/
theorem get?_modify_guilds (s : Cache) (h g : GuildId) (f : Guild → Guild) :
    (s.guilds.modify h f).get? g = if h = g then (s.guild? g).map f else s.guild? g := by
  unfold guild?
  rw [Table.get?_modify]
  by_cases hg : g = h
  · simp [hg]
  · simp [hg, Ne.symm hg]

theorem guild?_loseGuild (s : Cache) (L : LostGuild) (g : GuildId) :
    (s.loseGuild L).guild? g = (Event.guildDelete L).revise g (s.guild? g) := by
  unfold loseGuild Event.revise
  by_cases hL : L.unavailable = true
  · rw [if_pos hL]
    simp only [hL, if_true]
    exact get?_modify_guilds s L.id g _
  · rw [if_neg hL, guild?_dropGuild]
    simp only [hL, eq_comm]
    rfl

theorem guild?_step (s : Cache) (e : Event) (g : GuildId) : (s.step e).guild? g = e.revise g (s.guild? g) := by
  cases e with
  | guildCreate G => exact guild?_putGuild s G g
  | guildUpdate G => exact guild?_putGuild s G g
  | guildDelete L => exact guild?_loseGuild s L g
  | channelCreate ch => exact congrArg (·.get? g) (guilds_of_besideChannels <| upsertChannel_besideChannels s ch)
  | channelUpdate ch => exact congrArg (·.get? g) (guilds_of_besideChannels <| upsertChannel_besideChannels s ch)
  | threadCreate ch => exact congrArg (·.get? g) (guilds_of_besideChannels <| upsertChannel_besideChannels s ch)
  | threadUpdate ch => exact congrArg (·.get? g) (guilds_of_besideChannels <| upsertChannel_besideChannels s ch)
  | channelDelete ch => exact congrArg (·.get? g) (guilds_of_besideChannels <| dropChannel_besideChannels s ch)
  | threadDelete ch => exact congrArg (·.get? g) (guilds_of_besideChannels <| dropChannel_besideChannels s ch)
  | roleCreate e => exact get?_modify_guilds s e.guildId g _
  | roleUpdate e => exact get?_modify_guilds s e.guildId g _
  | roleDelete e => exact get?_modify_guilds s e.guildId g _
  | memberAdd e => exact congrArg (·.get? g) (guilds_of_besideMembers <| putMember_besideMembers s e.guildId e.member)
  | memberUpdate e => exact congrArg (·.get? g) (guilds_of_besideMembers <| putMember_besideMembers s e.guildId e.member)
  | memberRemove e => rfl
  | interactionCreate i => exact congrArg (·.get? g) (guilds_of_besideMembers <| seeInteraction_besideMembers s i)
  | unknown name op data => rfl

end Cache

/-! ## Lists of roles as finite maps -/

/-- the roles of a list by their ids; of an id the first counts, so it is put in last -/
def rolesOf (rs : List Role) : Table .role Role := rs.foldr (fun r t => t.insert r.id r) .empty

theorem get?_rolesOf (rs : List Role) (a : RoleId) : (rolesOf rs).get? a = rs.find? fun r => r.id = a := by
  induction rs with
  | nil => rfl
  | cons r rs ih =>
    unfold rolesOf at ih ⊢
    rw [List.foldr_cons, Table.get?_insert, ih, List.find?_cons]
    by_cases ha : a = r.id
    · simp [ha]
    · simp [ha, Ne.symm ha]

theorem find?_putRole (r : Role) (rs : List Role) (a : RoleId) :
    (Cache.putRole r rs).find? (fun q => q.id = a) = if a = r.id then some r else rs.find? fun q => q.id = a := by
  induction rs with
  | nil =>
    by_cases ha : a = r.id
    · simp [Cache.putRole, ha]
    · simp [Cache.putRole, ha, Ne.symm ha]
  | cons q qs ih =>
    unfold Cache.putRole
    by_cases hq : q.id = r.id
    · rw [if_pos hq, List.find?_cons, List.find?_cons]
      by_cases ha : a = r.id
      · simp [ha]
      · simp [ha, hq, Ne.symm ha]
    · rw [if_neg hq, List.find?_cons, List.find?_cons, ih]
      by_cases ha : a = r.id
      · simp [ha, hq]
      · simp [ha]

/-- to put a role into a list is to put it into the map -/
theorem rolesOf_putRole (r : Role) (rs : List Role) : rolesOf (Cache.putRole r rs) = (rolesOf rs).insert r.id r := by
  refine Table.ext_get? fun a => ?_
  rw [get?_rolesOf, find?_putRole, Table.get?_insert, get?_rolesOf]

/-- to take every role of an id out of a list is to erase the id from the map -/
theorem rolesOf_dropRole (a : RoleId) (rs : List Role) :
    rolesOf (rs.filter fun r => r.id ≠ a) = (rolesOf rs).erase a := by
  refine Table.ext_get? fun b => ?_
  rw [get?_rolesOf, Table.get?_erase, get?_rolesOf, List.find?_filter]
  by_cases hb : b = a
  · rw [if_pos hb, List.find?_eq_none]
    intro r _
    simp [hb]
  · rw [if_neg hb]
    congr 1
    funext r
    by_cases hr : r.id = b
    · simp [hr, hb]
    · simp [hr]

/-! ## Ids of roles -/

theorem mem_ids_putRole {r : Role} {rs : List Role} {a : RoleId} (h : a ∈ (Cache.putRole r rs).map Role.id) :
    a = r.id ∨ a ∈ rs.map Role.id := by
  have hsome : ((Cache.putRole r rs).find? fun q => q.id = a).isSome := by
    obtain ⟨q, hq, rfl⟩ := List.mem_map.1 h
    exact List.find?_isSome.2 ⟨q, hq, by simp⟩
  rw [find?_putRole] at hsome
  by_cases ha : a = r.id
  · exact .inl ha
  · rw [if_neg ha, List.find?_isSome] at hsome
    obtain ⟨q, hq, hqa⟩ := hsome
    exact .inr (List.mem_map.2 ⟨q, hq, of_decide_eq_true hqa⟩)

theorem nodup_putRole {r : Role} {rs : List Role} (h : (rs.map Role.id).Nodup) :
    ((Cache.putRole r rs).map Role.id).Nodup := by
  induction rs with
  | nil => simp [Cache.putRole]
  | cons q qs ih =>
    obtain ⟨hq, hqs⟩ := List.nodup_cons.1 h
    unfold Cache.putRole
    by_cases hid : q.id = r.id
    · rw [if_pos hid, List.map_cons, ← hid]
      exact h
    · rw [if_neg hid, List.map_cons, List.nodup_cons]
      refine ⟨fun hmem => ?_, ih hqs⟩
      rcases mem_ids_putRole hmem with heq | hmem
      · exact hid heq
      · exact hq hmem

/-! ## The book -/

/-- the roles of each guild in it -/
abbrev RoleBook := Table .guild (Table .role Role)

namespace RoleBook

/-- the book after an event -/
def read (b : RoleBook) : Event → RoleBook
  | .guildCreate G | .guildUpdate G => b.insert G.id (rolesOf G.roles)
  | .guildDelete L => if L.unavailable then b else b.erase L.id
  | .roleCreate e | .roleUpdate e => b.modify e.guildId fun rs => rs.insert e.role.id e.role
  | .roleDelete e => b.modify e.guildId fun rs => rs.erase e.roleId
  | _ => b

/-- the book after some events, from an empty one -/
def readAll (es : List Event) : RoleBook := es.foldl read .empty

def role? (b : RoleBook) (g : GuildId) (r : RoleId) : Option Role := (b.get? g).bind fun rs => rs.get? r

end RoleBook

namespace Cache

/-- the book has the known guilds, each with the roles of its entry -/
def KeptBy (s : Cache) (b : RoleBook) : Prop := ∀ g, b.get? g = (s.guild? g).map fun G => rolesOf G.roles

theorem role?_of_keptBy {s : Cache} {b : RoleBook} (h : s.KeptBy b) (g : GuildId) (r : RoleId) :
    s.role? g r = b.role? g r := by
  unfold role? RoleBook.role?
  rw [h g]
  cases s.guild? g with
  | none => rfl
  | some G => exact (get?_rolesOf G.roles r).symm

/-- a change of the list in one entry is the same change of its map in the book -/
theorem get?_modify_book {s : Cache} {b : RoleBook} (h : s.KeptBy b) {change : List Role → List Role}
    {write : Table .role Role → Table .role Role} (hsame : ∀ rs, rolesOf (change rs) = write (rolesOf rs))
    (k g : GuildId) :
    (b.modify k write).get? g =
      (if k = g then (s.guild? g).map fun G => { G with roles := change G.roles } else s.guild? g).map
        fun G => rolesOf G.roles := by
  rw [Table.get?_modify]
  by_cases hg : g = k
  · subst hg
    rw [if_pos rfl, if_pos rfl, h g]
    simp only [Option.map_map, Function.comp_def, hsame]
  · rw [if_neg hg, if_neg (Ne.symm hg), h g]

/-- an event writes into the book what it does to the entries -/
theorem keptBy_step {s : Cache} {b : RoleBook} (h : s.KeptBy b) (e : Event) : (s.step e).KeptBy (b.read e) := by
  intro g
  rw [guild?_step]
  have harrives : ∀ G : Guild, (b.insert G.id (rolesOf G.roles)).get? g =
      (if G.id = g then some G.bare else s.guild? g).map fun G => rolesOf G.roles := by
    intro G
    rw [Table.get?_insert, h g]
    by_cases hg : g = G.id
    · simp [hg, Guild.bare]
    · simp [hg, Ne.symm hg]
  cases e with
  | guildCreate G => exact harrives G
  | guildUpdate G => exact harrives G
  | guildDelete L =>
    unfold RoleBook.read Event.revise
    by_cases hL : L.unavailable = true
    · simp only [hL, if_true]
      rw [h g]
      split
      · rw [Option.map_map]
        rfl
      · rfl
    · simp only [hL]
      rw [if_neg Bool.false_ne_true, if_neg Bool.false_ne_true, Table.get?_erase, h g]
      by_cases hg : g = L.id
      · simp [hg]
      · simp [hg, Ne.symm hg]
  | roleCreate e => exact get?_modify_book h (rolesOf_putRole e.role) e.guildId g
  | roleUpdate e => exact get?_modify_book h (rolesOf_putRole e.role) e.guildId g
  | roleDelete e => exact get?_modify_book h (rolesOf_dropRole e.roleId) e.guildId g
  | _ => exact h g

theorem keptBy_run (es : List Event) : (run empty es).KeptBy (RoleBook.readAll es) := by
  induction es using List.reverseRecOn with
  | nil => exact fun g => rfl
  | append_singleton es e ih =>
    rw [run_snoc]
    unfold RoleBook.readAll
    rw [List.foldl_append]
    exact keptBy_step ih e

/-! ## Repetitions -/

/-- the event does not bring a guild with two roles of one id -/
def NoRepeats : Event → Prop
  | .guildCreate G | .guildUpdate G => (G.roles.map Role.id).Nodup
  | _ => True

theorem nodup_roles_step {e : Event} (he : NoRepeats e) {g : GuildId} {old : Option Guild} {G : Guild}
    (hold : ∀ F, old = some F → (F.roles.map Role.id).Nodup) (hG : e.revise g old = some G) :
    (G.roles.map Role.id).Nodup := by
  have harrives : ∀ F : Guild, (F.roles.map Role.id).Nodup → (if F.id = g then some F.bare else old) = some G →
      (G.roles.map Role.id).Nodup := by
    intro F hF hif
    split at hif
    · cases hif
      exact hF
    · exact hold G hif
  have hchange : ∀ (k : GuildId) (change : List Role → List Role),
      (∀ rs, (rs.map Role.id).Nodup → ((change rs).map Role.id).Nodup) →
      (if k = g then old.map fun F => { F with roles := change F.roles } else old) = some G →
      (G.roles.map Role.id).Nodup := by
    intro k change hkeeps hif
    split at hif
    · obtain ⟨F, hF, rfl⟩ := Option.map_eq_some_iff.1 hif
      exact hkeeps F.roles (hold F hF)
    · exact hold G hif
  cases e with
  | guildCreate F => exact harrives F he hG
  | guildUpdate F => exact harrives F he hG
  | guildDelete L =>
    simp only [Event.revise] at hG
    split at hG
    · split at hG
      · obtain ⟨F, hF, rfl⟩ := Option.map_eq_some_iff.1 hG
        exact hold F hF
      · cases hG
    · exact hold G hG
  | roleCreate e => exact hchange e.guildId _ (fun rs => nodup_putRole) hG
  | roleUpdate e => exact hchange e.guildId _ (fun rs => nodup_putRole) hG
  | roleDelete e =>
    exact hchange e.guildId _ (fun rs hrs => hrs.sublist (List.filter_sublist.map Role.id)) hG
  | _ => exact hold G hG

/-- roles are put over those of their id, so a repetition can only arrive with a guild -/
theorem nodup_roles_run {es : List Event} (hes : ∀ e ∈ es, NoRepeats e) {g : GuildId} {G : Guild}
    (hG : (run empty es).guild? g = some G) : (G.roles.map Role.id).Nodup := by
  induction es using List.reverseRecOn generalizing G with
  | nil => cases hG
  | append_singleton es e ih =>
    rw [run_snoc, guild?_step] at hG
    have hbefore : ∀ d ∈ es, NoRepeats d := fun d hd => hes d (List.mem_append_left _ hd)
    exact nodup_roles_step (hes e (by simp)) (fun F hF => ih hbefore hF) hG

/-! ## Main result -/

/-- **The roles of a guild are a finite map.** After every run what is known of a role is what the book says, and the
book has just the known guilds. If no guild arrives with two roles of one id, then no known guild ever has two. -/
theorem roles_refine_book (es : List Event) :
    (∀ g r, (run empty es).role? g r = (RoleBook.readAll es).role? g r) ∧
    (∀ g, ((run empty es).guild? g).isSome = ((RoleBook.readAll es).get? g).isSome) ∧
    ((∀ e ∈ es, NoRepeats e) → ∀ before, before <+: es → ∀ g G, (run empty before).guild? g = some G →
      (G.roles.map Role.id).Nodup) := by
  refine ⟨fun g r => role?_of_keptBy (keptBy_run es) g r, fun g => ?_, ?_⟩
  · rw [keptBy_run es g, Option.isSome_map]
  · intro hes before hpre g G hG
    exact nodup_roles_run (fun e he => hes e (hpre.subset he)) hG

/-! ## A guild with two roles -/

def everyoneId : RoleId := ⟨90, by decide, by decide⟩

def porterId : RoleId := ⟨91, by decide, by decide⟩

def cookId : RoleId := ⟨92, by decide, by decide⟩

/-- a role of which only the id and the name are known -/
def namedRole (id : RoleId) (name : String) : Role := { Role.stub id with name := name }

def lodge : Guild :=
  { id := everyoneId.cast, name := "lodge", ownerId := ⟨93, by decide, by decide⟩, icon := none,
    roles := [namedRole everyoneId "everyone", namedRole porterId "porter"], channels := [], threads := [],
    members := [], unavailable := false }

/-- a role is changed, one is made, and the guild goes offline -/
def lodgeLife : List Event :=
  [.guildCreate lodge, .roleUpdate ⟨lodge.id, namedRole porterId "doorman"⟩,
   .roleCreate ⟨lodge.id, namedRole cookId "cook"⟩, .guildDelete ⟨lodge.id, true⟩]

/-- After it the guild has three roles, none of them twice, and the changed one is as it was changed. -/
theorem roles_refine_book_lodge :
    (∀ e ∈ lodgeLife, NoRepeats e) ∧ lodgeLife <+: lodgeLife ∧
    (∃ G, (run empty lodgeLife).guild? lodge.id = some G ∧ (G.roles.map Role.id).Nodup ∧ G.roles.length = 3) ∧
    (run empty lodgeLife).role? lodge.id porterId = some (namedRole porterId "doorman") := by
  have hfresh : ∀ e ∈ lodgeLife, NoRepeats e := by
    intro e he
    simp only [lodgeLife, List.mem_cons, List.not_mem_nil, or_false] at he
    rcases he with rfl | rfl | rfl | rfl
    · show (lodge.roles.map Role.id).Nodup
      decide
    · trivial
    · trivial
    · trivial
  refine ⟨hfresh, List.prefix_refl _, ?_, ?_⟩
  · cases hG : (run empty lodgeLife).guild? lodge.id with
    | none => revert hG; decide
    | some G =>
      refine ⟨G, rfl, (roles_refine_book lodgeLife).2.2 hfresh lodgeLife (List.prefix_refl _) lodge.id G hG, ?_⟩
      have hlength : ((run empty lodgeLife).guild? lodge.id).map (fun G => G.roles.length) = some 3 := by decide
      rw [hG] at hlength
      exact Option.some.inj hlength
  · rw [(roles_refine_book lodgeLife).1]
    decide

end Cache

end InteractionKit
