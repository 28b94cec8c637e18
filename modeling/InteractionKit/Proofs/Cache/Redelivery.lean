import InteractionKit.Proofs.Cache.RoleBook
/-
Events that are delivered again.

A gateway may send an event twice. The changes an event makes to the cache overwrite: whatever came between, a change
made again leaves the state as if it had been made the second time only. So in a sequence of such changes one that comes
again later is not needed, and the whole sequence made twice is the sequence made once. A guild arrives as such a
sequence, with channels, threads and members in any order and any number of times. Nothing is asked of the state, which
need not come from a run.

- `Overwrites`: changes that overwrite. `Overwrites.foldl_foldl`: a sequence of them made twice.
- `Cache.Part`, `putGuild_eq_foldl`: a guild arrives part by part. `overwrites_putPart`: the parts overwrite.
- `step_step`: an event makes no difference when it comes again.
- `redelivery_changes_nothing`: nor do any number of deliveries of each event of a log.
-/
namespace InteractionKit

/-! ## Changes that overwrite -/

/-- a change made again counts the second time only, whatever came between -/
structure Overwrites {σ α : Type} (f : σ → α → σ) : Prop where
  again : ∀ s a, f (f s a) a = f s a
  later : ∀ s a b, f (f (f s a) b) a = f (f s b) a

namespace Overwrites

variable {σ α : Type} {f : σ → α → σ}

/-- a change that comes again later need not be made first -/
theorem foldl_of_mem (h : Overwrites f) {a : α} {as : List α} (ha : a ∈ as) (s : σ) :
    as.foldl f (f s a) = as.foldl f s := by
  induction as generalizing s with
  | nil => cases ha
  | cons b as ih =>
    rw [List.foldl_cons, List.foldl_cons]
    rcases List.mem_cons.1 ha with rfl | ha
    · rw [h.again]
    · -- it is made once more behind `b`, which makes the one in front of `b` superfluous
      calc as.foldl f (f (f s a) b) = as.foldl f (f (f (f s a) b) a) := (ih ha _).symm
        _ = as.foldl f (f (f s b) a) := by rw [h.later]
        _ = as.foldl f (f s b) := ih ha _

theorem foldl_of_subset (h : Overwrites f) {as bs : List α} (hbs : bs ⊆ as) (s : σ) :
    as.foldl f (bs.foldl f s) = as.foldl f s := by
  induction bs generalizing s with
  | nil => rfl
  | cons b bs ih =>
    obtain ⟨hb, hbs⟩ := List.cons_subset.1 hbs
    rw [List.foldl_cons, ih hbs, h.foldl_of_mem hb]

/-- a sequence of changes made twice is the sequence made once -/
theorem foldl_foldl (h : Overwrites f) (as : List α) (s : σ) : as.foldl f (as.foldl f s) = as.foldl f s :=
  h.foldl_of_subset (List.Subset.refl as) s

end Overwrites

namespace Cache

/-! ## Channels and members -/

theorem overwrites_putChannel (g : GuildId) : Overwrites fun s ch => putChannel s g ch where
  again s ch := by simp only [putChannel, Table.get?_insert, if_true, Option.getD_some, Table.insert_insert]
  later s ch dh := by
    simp only [putChannel, Table.get?_insert, if_true, Option.getD_some, Table.insert_insert,
      Table.insert_insert_insert]

theorem putMember_putMember (s : Cache) (g : GuildId) (m : Member) :
    (s.putMember g m).putMember g m = s.putMember g m := by
  unfold putMember
  cases m.user with
  | none => rfl
  | some u => simp only [Table.get?_insert, if_true, Option.getD_some, Table.insert_insert]

theorem overwrites_putMember (g : GuildId) : Overwrites fun s m => putMember s g m where
  again s m := putMember_putMember s g m
  later s m n := by
    unfold putMember
    cases m.user with
    | none => rfl
    | some u =>
      cases n.user with
      | none => simp only [Table.get?_insert, if_true, Option.getD_some, Table.insert_insert]
      | some v =>
        simp only [Table.get?_insert, if_true, Option.getD_some, Table.insert_insert, Table.insert_insert_insert]

/-! ## Guilds -/

/-- what a guild brings -/
inductive Part where
  | channel (ch : Channel)
  | member (m : Member)
  /-- the guild itself -/
  | entry (G : Guild)

/-- keeps what a guild brings -/
def putPart (g : GuildId) (s : Cache) : Part → Cache
  | .channel ch => s.putChannel g ch
  | .member m => s.putMember g m
  | .entry G => { s with guilds := s.guilds.insert g G.bare }

/-- all that a guild brings, in the order in which it is kept -/
def parts (G : Guild) : List Part :=
  (G.channels ++ G.threads).map .channel ++ G.members.map .member ++ [.entry G]

theorem putGuild_eq_foldl (s : Cache) (G : Guild) : s.putGuild G = (parts G).foldl (putPart G.id) s := by
  simp only [putGuild, parts, List.foldl_append, List.foldl_map, List.foldl_cons, List.foldl_nil, putPart]
  rfl

theorem putMember_putChannel (s : Cache) (g : GuildId) (ch : Channel) (m : Member) :
    (s.putChannel g ch).putMember g m = (s.putMember g m).putChannel g ch := by
  unfold putMember
  cases m.user with
  | none => rfl
  | some u => rfl

theorem putMember_putEntry (s : Cache) (g : GuildId) (G : Guild) (m : Member) :
    (putPart g s (.entry G)).putMember g m = putPart g (s.putMember g m) (.entry G) := by
  unfold putMember
  cases m.user with
  | none => rfl
  | some u => rfl

theorem overwrites_putPart (g : GuildId) : Overwrites (putPart g) := by
  have hagain : ∀ s p, putPart g (putPart g s p) p = putPart g s p := by
    intro s p
    cases p with
    | channel ch => exact (overwrites_putChannel g).again s ch
    | member m => exact (overwrites_putMember g).again s m
    | entry G => simp only [putPart, Table.insert_insert]
  -- parts of different sorts do not meet, so the first may be made last
  have hapart : ∀ {s p q}, putPart g (putPart g s p) q = putPart g (putPart g s q) p →
      putPart g (putPart g (putPart g s p) q) p = putPart g (putPart g s q) p := by
    intro s p q h
    rw [h, hagain]
  refine ⟨hagain, fun s p q => ?_⟩
  cases p with
  | channel ch =>
    cases q with
    | channel dh => exact (overwrites_putChannel g).later s ch dh
    | member m => exact hapart (putMember_putChannel s g ch m)
    | entry G => exact hapart rfl
  | member m =>
    cases q with
    | channel ch => exact hapart (putMember_putChannel s g ch m).symm
    | member n => exact (overwrites_putMember g).later s m n
    | entry G => exact hapart (putMember_putEntry s g G m).symm
  | entry G =>
    cases q with
    | channel ch => exact hapart rfl
    | member m => exact hapart (putMember_putEntry s g G m)
    | entry F => simp only [putPart, Table.insert_insert_insert]

/-- a guild may list a channel, a thread or a member any number of times -/
theorem putGuild_putGuild (s : Cache) (G : Guild) : (s.putGuild G).putGuild G = s.putGuild G := by
  rw [putGuild_eq_foldl, putGuild_eq_foldl]
  exact (overwrites_putPart G.id).foldl_foldl (parts G) s

/-! ## Single changes -/

/-- the second loss finds nothing listed under the guild -/
theorem dropGuild_dropGuild (s : Cache) (g : GuildId) : (s.dropGuild g).dropGuild g = s.dropGuild g := by
  have hnone : ∀ c, decide (c ∉ (s.dropGuild g).channelIds g) = true := by
    intro c
    rw [channelIds_dropGuild_self]
    rfl
  have hchannels : (s.dropGuild g).channels.filterKeys (fun c => c ∉ (s.dropGuild g).channelIds g) =
      (s.dropGuild g).channels := Table.filterKeys_eq_self hnone
  unfold dropGuild at hchannels ⊢
  simp only [hchannels, Table.erase_erase]

theorem loseGuild_loseGuild (s : Cache) (L : LostGuild) : (s.loseGuild L).loseGuild L = s.loseGuild L := by
  unfold loseGuild
  by_cases hL : L.unavailable = true
  · simp only [if_pos hL]
    rw [Table.modify_modify (f := fun G : Guild => { G with unavailable := true }) fun _ => rfl]
  · simp only [if_neg hL]
    exact dropGuild_dropGuild s L.id

theorem upsertChannel_upsertChannel (s : Cache) (ch : Channel) :
    (s.upsertChannel ch).upsertChannel ch = s.upsertChannel ch := by
  unfold upsertChannel
  cases ch.guildId with
  | none => simp only [Table.insert_insert]
  | some g => exact (overwrites_putChannel g).again s ch

theorem dropChannel_dropChannel (s : Cache) (ch : Channel) :
    (s.dropChannel ch).dropChannel ch = s.dropChannel ch := by
  unfold dropChannel
  cases ch.guildId with
  | none => simp only [Table.erase_erase]
  | some g =>
    simp only [Table.erase_erase]
    rw [Table.modify_modify fun ids => ids.erase_erase ch.id]

/-- a role that was added at the end is replaced where it stands -/
theorem putRole_putRole (r : Role) (rs : List Role) : putRole r (putRole r rs) = putRole r rs := by
  induction rs with
  | nil => simp [putRole]
  | cons q qs ih =>
    by_cases hq : q.id = r.id
    · simp [putRole, hq]
    · simp [putRole, hq, ih]

theorem upsertRole_upsertRole (s : Cache) (e : RoleEvent) : (s.upsertRole e).upsertRole e = s.upsertRole e := by
  unfold upsertRole
  simp only
  rw [Table.modify_modify fun G => by simp only [putRole_putRole]]

theorem dropRole_dropRole (s : Cache) (e : RoleRemoval) : (s.dropRole e).dropRole e = s.dropRole e := by
  unfold dropRole
  simp only
  rw [Table.modify_modify fun G => by simp only [List.filter_filter, Bool.and_self]]

theorem dropMember_dropMember (s : Cache) (e : MemberRemoval) : (s.dropMember e).dropMember e = s.dropMember e := by
  unfold dropMember
  simp only
  rw [Table.modify_modify fun ms => ms.erase_erase e.user.id]

theorem seeInteraction_seeInteraction (s : Cache) (i : Interaction) :
    (s.seeInteraction i).seeInteraction i = s.seeInteraction i := by
  unfold seeInteraction
  cases i.guildId with
  | none =>
    cases i.user with
    | none => rfl
    | some u => simp only [Table.insert_insert]
  | some g =>
    cases i.member with
    | none =>
      cases i.user with
      | none => rfl
      | some u => simp only [Table.insert_insert]
    | some m => exact putMember_putMember s g m

/-! ## Events -/

/-- an event makes no difference when it comes again -/
theorem step_step (s : Cache) (e : Event) : (s.step e).step e = s.step e := by
  cases e with
  | guildCreate G => exact putGuild_putGuild s G
  | guildUpdate G => exact putGuild_putGuild s G
  | guildDelete L => exact loseGuild_loseGuild s L
  | channelCreate ch => exact upsertChannel_upsertChannel s ch
  | channelUpdate ch => exact upsertChannel_upsertChannel s ch
  | channelDelete ch => exact dropChannel_dropChannel s ch
  | threadCreate ch => exact upsertChannel_upsertChannel s ch
  | threadUpdate ch => exact upsertChannel_upsertChannel s ch
  | threadDelete ch => exact dropChannel_dropChannel s ch
  | roleCreate e => exact upsertRole_upsertRole s e
  | roleUpdate e => exact upsertRole_upsertRole s e
  | roleDelete e => exact dropRole_dropRole s e
  | memberAdd e => exact putMember_putMember s e.guildId e.member
  | memberUpdate e => exact putMember_putMember s e.guildId e.member
  | memberRemove e => exact dropMember_dropMember s e
  | interactionCreate i => exact seeInteraction_seeInteraction s i
  | unknown name op data => rfl

/-- deliveries of the events of a log, each once and then as many times again as the log tells -/
def deliveries (log : List (Event × ℕ)) : List Event := log.flatMap fun d => List.replicate (d.2 + 1) d.1

theorem run_replicate (s : Cache) (e : Event) (n : ℕ) : s.run (List.replicate (n + 1) e) = s.step e := by
  induction n with
  | zero => rfl
  | succ n ih =>
    rw [List.replicate_succ', run_snoc, ih, step_step]

theorem run_deliveries (s : Cache) (log : List (Event × ℕ)) : s.run (deliveries log) = s.run (log.map Prod.fst) := by
  induction log generalizing s with
  | nil => rfl
  | cons d log ih =>
    have hsplit : s.run (deliveries (d :: log)) = (s.run (List.replicate (d.2 + 1) d.1)).run (deliveries log) := by
      rw [deliveries, List.flatMap_cons, run, List.foldl_append]
      rfl
    rw [hsplit, run_replicate, ih]
    rfl

/-- **An event that is delivered again changes nothing.** In whatever state, the second delivery of an event leaves
every table as the first one made it, and so a log leaves the same state however often each of its events is delivered
before the next one. -/
theorem redelivery_changes_nothing (s : Cache) :
    (∀ e, (s.step e).step e = s.step e) ∧ ∀ log, s.run (deliveries log) = s.run (log.map Prod.fst) :=
  ⟨step_step s, run_deliveries s⟩

end Cache

end InteractionKit
