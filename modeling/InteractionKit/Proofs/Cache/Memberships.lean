import InteractionKit.Proofs.Cache.Removal
import InteractionKit.Proofs.Lists
/-
Members and users against the log of what was told about them.

An event tells of members and users in a sequence of notes: who is a member of which guild, who left, which guild is
lost. The cache keeps these in a roster, and every event adds its notes to the roster in turn. So what is known of a
membership is the last word on it in the log, and there is no more to the state than that.

- `Note`, `Event.notes`, `Event.log`: what is told about members and users, in order.
- `Roster`: the tables of members and users. `step_roster`, `run_roster`: the roster is what the log makes of it.
- `member?_run`, `user?_run`: an answer is the last word on it.
- `user?_of_member?_run`: a member's user is known.
- `rosters_last_written`: both tables against the log, and users are never forgotten.
-/
namespace InteractionKit

/-! ## Notes -/

/-- one thing that an event tells about members and users -/
inductive Note where
  /-- a user is a member of a guild -/
  | member (g : GuildId) (u : User) (m : Member)
  /-- a user, seen outside any guild -/
  | user (u : User)
  /-- a user left a guild -/
  | left (g : GuildId) (u : UserId)
  /-- a guild was left, and its members with it -/
  | lost (g : GuildId)

namespace Note

/-- a member of a guild, if it comes with a user -/
def ofMember (g : GuildId) (m : Member) : List Note :=
  match m.user with
  | some u => [.member g u m]
  | none => []

/-- who triggered an interaction: a member in a guild, else the user -/
def ofInteraction (i : Interaction) : List Note :=
  match i.guildId, i.member with
  | some g, some m => ofMember g m
  | _, _ => (i.user.map Note.user).toList

/-- what the note says of a membership: nothing, or how it is, or that there is none -/
def member? (n : Note) (g : GuildId) (u : UserId) : Option (Option Member) :=
  match n with
  | .member h w m => if h = g ∧ w.id = u then some (some { m with user := none }) else none
  | .left h v => if h = g ∧ v = u then some none else none
  | .lost h => if h = g then some none else none
  | .user _ => none

/-- what the note says of a user -/
def user? (n : Note) (u : UserId) : Option User :=
  match n with
  | .member _ w _ | .user w => if w.id = u then some w else none
  | .left _ _ | .lost _ => none

theorem id_of_user? {n : Note} {u : UserId} {w : User} (h : n.user? u = some w) : w.id = u := by
  have hput : ∀ v : User, (if v.id = u then some v else none) = some w → w.id = u := by
    intro v hv
    obtain ⟨hid, heq⟩ := Option.ite_none_right_eq_some.1 hv
    cases heq
    exact hid
  cases n with
  | member g v m => exact hput v h
  | user v => exact hput v h
  | left g v => cases h
  | lost g => cases h

/-- a note of a member is a note of the user too -/
theorem user?_of_member? {n : Note} {g : GuildId} {u : UserId} {m : Member} (h : n.member? g u = some (some m)) :
    ∃ w, n.user? u = some w := by
  cases n with
  | member k w m' =>
    obtain ⟨⟨-, hw⟩, -⟩ := Option.ite_none_right_eq_some.1 h
    exact ⟨w, if_pos hw⟩
  | user w => cases h
  | left k v =>
    obtain ⟨-, hm⟩ := Option.ite_none_right_eq_some.1 h
    cases hm
  | lost k =>
    obtain ⟨-, hm⟩ := Option.ite_none_right_eq_some.1 h
    cases hm

end Note

namespace Event

/-- what an event tells about members and users, the members of a guild in their order -/
def notes : Event → List Note
  | .guildCreate G | .guildUpdate G => G.members.flatMap (Note.ofMember G.id)
  | .guildDelete L => if L.unavailable then [] else [.lost L.id]
  | .memberAdd e | .memberUpdate e => Note.ofMember e.guildId e.member
  | .memberRemove e => [.left e.guildId e.user.id]
  | .interactionCreate i => Note.ofInteraction i
  | _ => []

/-- all that was told by some events, in order -/
def log (es : List Event) : List Note := es.flatMap notes

end Event

namespace Cache

/-! ## Rosters -/

/-- who is a member where, and what is known of the users -/
structure Roster where
  members : Table .guild (Table .user Member)
  users : Table .user User

def roster (s : Cache) : Roster := ⟨s.members, s.users⟩

namespace Roster

def member? (r : Roster) (g : GuildId) (u : UserId) : Option Member := (r.members.get? g).bind fun ms => ms.get? u

def user? (r : Roster) (u : UserId) : Option User := r.users.get? u

/-- a roster with one more note taken down -/
def hear (r : Roster) : Note → Roster
  | .member g u m =>
    { members := r.members.insert g (((r.members.get? g).getD .empty).insert u.id { m with user := none })
      users := r.users.insert u.id u }
  | .user u => { r with users := r.users.insert u.id u }
  | .left g u => { r with members := r.members.modify g fun ms => ms.erase u }
  | .lost g => { r with members := r.members.erase g }

theorem member?_hear (r : Roster) (n : Note) (g : GuildId) (u : UserId) :
    (r.hear n).member? g u = (n.member? g u).getD (r.member? g u) := by
  unfold member? hear Note.member?
  cases n with
  | member h w m =>
    simp only [Table.get?_insert]
    by_cases hg : g = h
    · subst hg
      by_cases hu : u = w.id
      · simp [Table.get?_insert, hu]
      · cases r.members.get? g with
        | none => simp [Table.get?_insert, hu, Ne.symm hu]
        | some ms => simp [Table.get?_insert, hu, Ne.symm hu]
    · simp [hg, Ne.symm hg]
  | user w => rfl
  | left h v =>
    simp only [Table.get?_modify]
    by_cases hg : g = h
    · subst hg
      cases r.members.get? g with
      | none => by_cases hv : v = u <;> simp [hv]
      | some ms =>
        by_cases hv : u = v
        · simp [Table.get?_erase, hv]
        · simp [Table.get?_erase, hv, Ne.symm hv]
    · simp [hg, Ne.symm hg]
  | lost h =>
    simp only [Table.get?_erase]
    by_cases hg : g = h
    · simp [hg]
    · simp [hg, Ne.symm hg]

theorem user?_hear (r : Roster) (n : Note) (u : UserId) : (r.hear n).user? u = (n.user? u).or (r.user? u) := by
  have hput : ∀ w : User, (r.users.insert w.id w).get? u =
      (if w.id = u then some w else none).or (r.users.get? u) := by
    intro w
    rw [Table.get?_insert]
    by_cases hu : u = w.id
    · simp [hu]
    · simp [hu, Ne.symm hu]
  cases n with
  | member g w m => exact hput w
  | user w => exact hput w
  | left g v => rfl
  | lost g => rfl

theorem member?_hearAll (r : Roster) (ns : List Note) (g : GuildId) (u : UserId) :
    (ns.foldl hear r).member? g u = (lastWord (fun n => n.member? g u) ns).getD (r.member? g u) := by
  induction ns using List.reverseRecOn with
  | nil => rfl
  | append_singleton ns n ih =>
    rw [List.foldl_append, List.foldl_cons, List.foldl_nil, member?_hear, ih, lastWord_append, lastWord_singleton,
      Option.getD_or]

theorem user?_hearAll (r : Roster) (ns : List Note) (u : UserId) :
    (ns.foldl hear r).user? u = (lastWord (fun n => n.user? u) ns).or (r.user? u) := by
  induction ns using List.reverseRecOn with
  | nil => rfl
  | append_singleton ns n ih =>
    rw [List.foldl_append, List.foldl_cons, List.foldl_nil, user?_hear, ih, lastWord_append, lastWord_singleton,
      Option.or_assoc]

end Roster

/-! ## Changes -/

theorem roster_of_besideChannels {s t : Cache} (h : s.besideChannels = t.besideChannels) : s.roster = t.roster := by
  show s.besideChannels.roster = t.besideChannels.roster
  rw [h]

theorem putMember_roster (s : Cache) (g : GuildId) (m : Member) :
    (s.putMember g m).roster = (Note.ofMember g m).foldl Roster.hear s.roster := by
  unfold putMember Note.ofMember
  cases m.user with
  | none => rfl
  | some u => rfl

theorem putMembers_roster (s : Cache) (g : GuildId) (ms : List Member) :
    (ms.foldl (fun s m => s.putMember g m) s).roster = (ms.flatMap (Note.ofMember g)).foldl Roster.hear s.roster := by
  induction ms generalizing s with
  | nil => rfl
  | cons m ms ih => rw [List.foldl_cons, ih, putMember_roster, List.flatMap_cons, List.foldl_append]

theorem putGuild_roster (s : Cache) (G : Guild) :
    (s.putGuild G).roster = (G.members.flatMap (Note.ofMember G.id)).foldl Roster.hear s.roster := by
  have hchannels : ((G.channels ++ G.threads).foldl (fun s ch => s.putChannel G.id ch) s).roster = s.roster :=
    roster_of_besideChannels (putChannels_besideChannels s G.id _)
  rw [← hchannels]
  exact putMembers_roster _ G.id G.members

theorem loseGuild_roster (s : Cache) (L : LostGuild) :
    (s.loseGuild L).roster = ((Event.guildDelete L).notes).foldl Roster.hear s.roster := by
  unfold loseGuild Event.notes
  by_cases hL : L.unavailable = true
  · simp [hL, roster]
  · simp [hL, roster, dropGuild, Roster.hear]

theorem seeInteraction_roster (s : Cache) (i : Interaction) :
    (s.seeInteraction i).roster = (Note.ofInteraction i).foldl Roster.hear s.roster := by
  unfold seeInteraction Note.ofInteraction
  cases i.guildId with
  | none =>
    cases i.user with
    | none => rfl
    | some u => rfl
  | some g =>
    cases i.member with
    | none =>
      cases i.user with
      | none => rfl
      | some u => rfl
    | some m => exact putMember_roster s g m

/-- an event adds its notes to the roster -/
theorem step_roster (s : Cache) (e : Event) : (s.step e).roster = e.notes.foldl Roster.hear s.roster := by
  cases e with
  | guildCreate G => exact putGuild_roster s G
  | guildUpdate G => exact putGuild_roster s G
  | guildDelete L => exact loseGuild_roster s L
  | channelCreate ch => exact roster_of_besideChannels (upsertChannel_besideChannels s ch)
  | channelUpdate ch => exact roster_of_besideChannels (upsertChannel_besideChannels s ch)
  | threadCreate ch => exact roster_of_besideChannels (upsertChannel_besideChannels s ch)
  | threadUpdate ch => exact roster_of_besideChannels (upsertChannel_besideChannels s ch)
  | channelDelete ch => exact roster_of_besideChannels (dropChannel_besideChannels s ch)
  | threadDelete ch => exact roster_of_besideChannels (dropChannel_besideChannels s ch)
  | memberAdd e => exact putMember_roster s e.guildId e.member
  | memberUpdate e => exact putMember_roster s e.guildId e.member
  | interactionCreate i => exact seeInteraction_roster s i
  | _ => rfl

theorem member?_step (s : Cache) (e : Event) (g : GuildId) (u : UserId) :
    (s.step e).member? g u = (lastWord (fun n => n.member? g u) e.notes).getD (s.member? g u) := by
  show (s.step e).roster.member? g u = _
  rw [step_roster, Roster.member?_hearAll]
  rfl

theorem user?_step (s : Cache) (e : Event) (u : UserId) :
    (s.step e).user? u = (lastWord (fun n => n.user? u) e.notes).or (s.user? u) := by
  show (s.step e).roster.user? u = _
  rw [step_roster, Roster.user?_hearAll]
  rfl

/-! ## Runs -/

theorem run_roster (s : Cache) (es : List Event) :
    (s.run es).roster = (Event.log es).foldl Roster.hear s.roster := by
  induction es using List.reverseRecOn with
  | nil => rfl
  | append_singleton es e ih =>
    rw [run_snoc, step_roster, ih, ← List.foldl_append]
    simp [Event.log]

/-- what is known of a membership is the last word on it -/
theorem member?_run (s : Cache) (es : List Event) (g : GuildId) (u : UserId) :
    (s.run es).member? g u = (lastWord (fun n => n.member? g u) (Event.log es)).getD (s.member? g u) := by
  show (s.run es).roster.member? g u = _
  rw [run_roster, Roster.member?_hearAll]
  rfl

/-- what is known of a user is the last that was told -/
theorem user?_run (s : Cache) (es : List Event) (u : UserId) :
    (s.run es).user? u = (lastWord (fun n => n.user? u) (Event.log es)).or (s.user? u) := by
  show (s.run es).roster.user? u = _
  rw [run_roster, Roster.user?_hearAll]
  rfl

theorem id_of_user?_run {es : List Event} {u : UserId} {w : User} (h : (run empty es).user? u = some w) :
    w.id = u := by
  have hlast : (lastWord (fun n => n.user? u) (Event.log es)).or none = some w := (user?_run empty es u).symm.trans h
  rw [Option.or_none] at hlast
  obtain ⟨n, -, hw⟩ := exists_of_lastWord hlast
  exact n.id_of_user? hw

/-- the user of every known member is known -/
theorem user?_of_member?_run {es : List Event} {g : GuildId} {u : UserId} {m : Member}
    (h : (run empty es).member? g u = some m) : ∃ w, (run empty es).user? u = some w ∧ w.id = u := by
  have hlast : lastWord (fun n => n.member? g u) (Event.log es) = some (some m) := by
    rw [member?_run] at h
    cases hl : lastWord (fun n => n.member? g u) (Event.log es) with
    | none =>
      rw [hl] at h
      cases h
    | some o =>
      rw [hl] at h
      exact congrArg some h
  obtain ⟨n, hn, hm⟩ := exists_of_lastWord hlast
  obtain ⟨v, hv⟩ := n.user?_of_member? hm
  obtain ⟨w, hw⟩ := Option.isSome_iff_exists.1 (lastWord_isSome (f := fun n => n.user? u) hn hv)
  have huser : (run empty es).user? u = some w := by
    rw [user?_run, hw]
    rfl
  exact ⟨w, huser, id_of_user?_run huser⟩

/-! ## Main result -/

/-- **The last word counts.** After every run a membership is as the last note on it in the log tells, without its user,
and there is none if no note tells of it or if the last one ends it. A user is as told last. A user who was seen once
stays known, whatever comes after. -/
theorem rosters_last_written (es : List Event) :
    let s := run empty es
    (∀ g u, s.member? g u = (lastWord (fun n => n.member? g u) (Event.log es)).join) ∧
    (∀ u, s.user? u = lastWord (fun n => n.user? u) (Event.log es)) ∧
    ∀ u fs, (s.user? u).isSome → ((run empty (es ++ fs)).user? u).isSome := by
  intro s
  refine ⟨fun g u => ?_, fun u => ?_, fun u fs hu => ?_⟩
  · rw [member?_run]
    cases lastWord (fun n => n.member? g u) (Event.log es) with
    | none => rfl
    | some o => rfl
  · rw [user?_run]
    exact Option.or_none
  · have happend : (run empty (es ++ fs)).user? u = (lastWord (fun n => n.user? u) (Event.log fs)).or (s.user? u) := by
      rw [run, List.foldl_append]
      exact user?_run s fs u
    rw [happend, Option.isSome_or, hu, Bool.or_true]

/-! ## A guest -/

def guestUser : User := User.stub ⟨72, by decide, by decide⟩

def guest (nick : String) : Member := ⟨some guestUser, some nick, [], none, false, false, false, none⟩

/-- a guild that lists a member twice -/
def hall : Guild :=
  { id := ⟨70, by decide, by decide⟩, name := "hall", ownerId := ⟨71, by decide, by decide⟩, icon := none, roles := [],
    channels := [], threads := [], members := [guest "early", guest "late"], unavailable := false }

/-- The guest is a member as listed last, and leaves. The membership ends, the user stays known. -/
theorem rosters_last_written_guest :
    let s := run empty [.guildCreate hall]
    let t := run empty ([.guildCreate hall] ++ [.memberRemove ⟨hall.id, guestUser⟩])
    (s.user? guestUser.id).isSome ∧ s.member? hall.id guestUser.id = some { guest "late" with user := none } ∧
      t.member? hall.id guestUser.id = none ∧ (t.user? guestUser.id).isSome := by
  intro s t
  have hseen : (s.user? guestUser.id).isSome := by decide
  have hlate : s.member? hall.id guestUser.id = some { guest "late" with user := none } :=
    ((rosters_last_written _).1 hall.id guestUser.id).trans (by decide)
  have hleft : t.member? hall.id guestUser.id = none :=
    ((rosters_last_written _).1 hall.id guestUser.id).trans (by decide)
  exact ⟨hseen, hlate, hleft, (rosters_last_written [.guildCreate hall]).2.2 guestUser.id _ hseen⟩

end Cache

end InteractionKit
