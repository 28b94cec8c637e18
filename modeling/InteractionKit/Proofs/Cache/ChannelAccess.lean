import InteractionKit.Proofs.Access.Layers
import InteractionKit.Proofs.Cache.Memberships
/-
Permissions in channels, from what is known, against the permissions that are worked out from a guild, a channel and a
member.

The answer is put together from four tables. Members are kept without their users, and a member without a user would
lose the overwrites of its own and the rights of an owner. But after every run the user of a known member is known, so
the member can be made whole again. A thread is answered for by the channel it is in.

- `Selects`: the channel that answers for an id. `selected_eq_some_iff`, `selected_eq_none_iff`: when there is one.
- `seat?_eq_none_iff`: who has no place in a guild.
- `inChannel_of_seat?`: a place in a guild gives what the member made whole has.
- `channelAccess_agrees`: when there is an answer, and that it is the right one.
-/
namespace InteractionKit.Cache

/-! ## The channel that answers -/

/-- the channel that answers for an id: the known channel itself, or for a thread the known channel it is in -/
inductive Selects (s : Cache) (c : ChannelId) (ch : Channel) : Prop where
  | itself (known : s.channel? c = some ch) (plain : ch.isThread = false)
  | parent (th : Channel) (p : ChannelId) (known : s.channel? c = some th) (thread : th.isThread = true)
      (names : th.parentId = some p) (parent_known : s.channel? p = some ch)

theorem governing?_of_plain (s : Cache) {ch : Channel} (h : ch.isThread = false) : s.governing? ch = some ch := by
  unfold governing?
  rw [h]
  rfl

theorem governing?_of_thread (s : Cache) {th : Channel} (h : th.isThread = true) :
    s.governing? th = th.parentId.bind s.channel? := by
  unfold governing?
  rw [if_pos h]

theorem selected_eq_some_iff {s : Cache} {c : ChannelId} {ch : Channel} :
    (s.channel? c).bind s.governing? = some ch ↔ s.Selects c ch := by
  constructor
  · intro h
    obtain ⟨th, hth, hch⟩ := Option.bind_eq_some_iff.1 h
    cases hthread : th.isThread with
    | false =>
      rw [governing?_of_plain s hthread] at hch
      cases hch
      exact .itself hth hthread
    | true =>
      rw [governing?_of_thread s hthread] at hch
      obtain ⟨p, hp, hch⟩ := Option.bind_eq_some_iff.1 hch
      exact .parent th p hth hthread hp hch
  · rintro (⟨hch, hplain⟩ | ⟨th, p, hth, hthread, hp, hch⟩)
    · rw [hch, Option.bind_some, governing?_of_plain s hplain]
    · rw [hth, Option.bind_some, governing?_of_thread s hthread, hp, Option.bind_some, hch]

theorem selected_eq_none_iff {s : Cache} {c : ChannelId} :
    (s.channel? c).bind s.governing? = none ↔
      s.channel? c = none ∨
      ∃ th, s.channel? c = some th ∧ th.isThread = true ∧
        (th.parentId = none ∨ ∃ p, th.parentId = some p ∧ s.channel? p = none) := by
  cases hth : s.channel? c with
  | none => simp
  | some th =>
    rw [Option.bind_some]
    cases hthread : th.isThread with
    | false => simp [governing?_of_plain s hthread, hthread]
    | true =>
      rw [governing?_of_thread s hthread]
      cases hp : th.parentId with
      | none => simp [hthread, hp]
      | some p => simp [hthread, hp]

/-! ## Places in a guild -/

theorem seat?_eq_none_iff {s : Cache} {G : Guild} {g : GuildId} {u : UserId} :
    s.seat? G g u = none ↔ u ≠ G.ownerId ∧ s.member? g u = none := by
  unfold seat?
  by_cases hu : u = G.ownerId
  · simp [hu]
  · simp [hu]

/-- with the user put back a member has what the place in the guild gives, also if the member owns the guild -/
theorem inChannel_of_seat? {s : Cache} {G : Guild} {g : GuildId} {u : UserId} {m : Member} {w : User}
    (hm : s.member? g u = some m) (hw : w.id = u) (ch : Channel) :
    (s.seat? G g u).map (fun seat => seat.inChannel ch) =
      some (channelPermissions G ch { m with user := some w }) := by
  have hwhole : channelPermissions G ch { m with user := some w } = Seat.inChannel ⟨G, u, m.roles⟩ ch := by
    rw [← hw]
    rfl
  unfold seat?
  rw [hwhole]
  by_cases hu : u = G.ownerId
  · rw [if_pos hu, Option.map_some, Seat.inChannel_of_owner (s := ⟨G, u, []⟩) hu,
      Seat.inChannel_of_owner (s := ⟨G, u, m.roles⟩) hu]
  · rw [if_neg hu, hm, Option.map_some, Option.map_some]

/-! ## Answers -/

theorem userChannelPermissions?_eq (s : Cache) (u : UserId) (c : ChannelId) :
    s.userChannelPermissions? u c =
      ((s.channel? c).bind s.governing?).bind fun ch => ch.guildId.bind fun g => (s.guild? g).bind fun G =>
        (s.seat? G g u).map fun seat => seat.inChannel ch := by
  simp only [userChannelPermissions?, Option.bind_eq_bind, Option.pure_def, Option.bind_assoc, Option.map_eq_bind,
    Function.comp_def]

/-- only the channel that answers for an id counts -/
theorem userChannelPermissions?_congr {s : Cache} {c d : ChannelId}
    (h : (s.channel? c).bind s.governing? = (s.channel? d).bind s.governing?) (u : UserId) :
    s.userChannelPermissions? u c = s.userChannelPermissions? u d := by
  rw [userChannelPermissions?_eq, userChannelPermissions?_eq, h]

theorem userChannelPermissions?_eq_none_iff {s : Cache} {u : UserId} {c : ChannelId} :
    s.userChannelPermissions? u c = none ↔
      (s.channel? c).bind s.governing? = none ∨
      ∃ ch, s.Selects c ch ∧
        (ch.guildId = none ∨ ∃ g, ch.guildId = some g ∧
          (s.guild? g = none ∨ ∃ G, s.guild? g = some G ∧ s.seat? G g u = none)) := by
  rw [userChannelPermissions?_eq]
  simp only [← selected_eq_some_iff]
  cases (s.channel? c).bind s.governing? with
  | none => simp
  | some ch =>
    cases hg : ch.guildId with
    | none => simp [hg]
    | some g =>
      cases hG : s.guild? g with
      | none => simp [hg, hG]
      | some G => simp [hg, hG]

/-! ## Main result -/

/-- **Access from what is known.** After every run, in a channel of a known guild a known member has the permissions
that are worked out for the guild, the channel and the member with the user put back, and that user is known. A thread
in a channel is answered for by the channel. There is no answer just if the channel is not known, it is a thread without
a known parent, the channel that answers names no guild or one that is not known, or the user neither owns the guild nor
is a known member of it. -/
theorem channelAccess_agrees (es : List Event) (u : UserId) (c : ChannelId) :
    let s := run empty es
    (∀ ch g G m, s.channel? c = some ch → ch.isThread = false → ch.guildId = some g → s.guild? g = some G →
      s.member? g u = some m →
      (s.user? u).isSome ∧
        s.userChannelPermissions? u c = some (channelPermissions G ch { m with user := s.user? u })) ∧
    (∀ th p ch, s.channel? c = some th → th.isThread = true → th.parentId = some p → s.channel? p = some ch →
      ch.isThread = false → s.userChannelPermissions? u c = s.userChannelPermissions? u p) ∧
    (s.userChannelPermissions? u c = none ↔
      s.channel? c = none ∨
      (∃ th, s.channel? c = some th ∧ th.isThread = true ∧
        (th.parentId = none ∨ ∃ p, th.parentId = some p ∧ s.channel? p = none)) ∨
      ∃ ch, s.Selects c ch ∧
        (ch.guildId = none ∨ ∃ g, ch.guildId = some g ∧
          (s.guild? g = none ∨ ∃ G, s.guild? g = some G ∧ u ≠ G.ownerId ∧ s.member? g u = none))) := by
  intro s
  refine ⟨?_, ?_, ?_⟩
  · intro ch g G m hch hplain hg hG hm
    obtain ⟨w, huser, hw⟩ := user?_of_member?_run hm
    have hselected : (s.channel? c).bind s.governing? = some ch := selected_eq_some_iff.2 (.itself hch hplain)
    have hanswer : s.userChannelPermissions? u c = (s.seat? G g u).map fun seat => seat.inChannel ch := by
      rw [userChannelPermissions?_eq, hselected, Option.bind_some, hg, Option.bind_some, hG, Option.bind_some]
    refine ⟨Option.isSome_iff_exists.2 ⟨w, huser⟩, ?_⟩
    rw [hanswer, huser]
    exact inChannel_of_seat? hm hw ch
  · intro th p ch hth hthread hp hch hplain
    have hthread' : (s.channel? c).bind s.governing? = some ch :=
      selected_eq_some_iff.2 (.parent th p hth hthread hp hch)
    have hparent : (s.channel? p).bind s.governing? = some ch := selected_eq_some_iff.2 (.itself hch hplain)
    exact userChannelPermissions?_congr (hthread'.trans hparent.symm) u
  · rw [userChannelPermissions?_eq_none_iff, selected_eq_none_iff, or_assoc]
    simp only [seat?_eq_none_iff]

/-! ## A channel with a thread -/

def collegeId : GuildId := ⟨80, by decide, by decide⟩

def studyId : ChannelId := ⟨81, by decide, by decide⟩

def nookId : ChannelId := ⟨82, by decide, by decide⟩

def writer : User := User.stub ⟨83, by decide, by decide⟩

def stranger : UserId := ⟨84, by decide, by decide⟩

/-- the writer as a member without roles -/
def writing : Member := ⟨some writer, none, [], none, false, false, false, none⟩

/-- a channel where the writer may write by an overwrite for the writer alone -/
def study : Channel :=
  { Channel.stub studyId with
    guildId := some collegeId, overwrites := [Overwrite.forMember writer.id (.single .sendMessages) .empty] }

/-- a thread in the study -/
def nook : Channel :=
  { Channel.stub nookId with kind := .publicThread, guildId := some collegeId, parentId := some studyId }

/-- a guild where everyone may look -/
def college : Guild :=
  { id := collegeId, name := "college", ownerId := ⟨85, by decide, by decide⟩, icon := none,
    roles := [{ Role.stub collegeId.cast with permissions := .single .viewChannel }], channels := [study],
    threads := [nook], members := [writing], unavailable := false }

/-- The writer may look and write in the study, and in the nook by way of the study. A stranger has no answer. -/
theorem channelAccess_agrees_college :
    let s := run empty [.guildCreate college]
    let entry := { college with channels := [], threads := [], members := [] }
    (s.channel? studyId = some study ∧ s.channel? nookId = some nook ∧ s.guild? collegeId = some entry ∧
      s.member? collegeId writer.id = some { writing with user := none }) ∧
    s.userChannelPermissions? writer.id studyId = some (channelPermissions entry study writing) ∧
    channelPermissions entry study writing = .ofList [.viewChannel, .sendMessages] ∧
    s.userChannelPermissions? writer.id nookId = s.userChannelPermissions? writer.id studyId ∧
    s.userChannelPermissions? stranger nookId = none := by
  intro s entry
  have hstudy : s.channel? studyId = some study := by decide
  have hnook : s.channel? nookId = some nook := by decide
  have hguild : s.guild? collegeId = some entry := by decide
  have hmember : s.member? collegeId writer.id = some { writing with user := none } := by decide
  have huser : s.user? writer.id = some writer := by decide
  refine ⟨⟨hstudy, hnook, hguild, hmember⟩, ?_, by decide, ?_, ?_⟩
  · have h := (channelAccess_agrees [.guildCreate college] writer.id studyId).1 study collegeId entry _ hstudy
      (by decide) rfl hguild hmember
    rw [h.2]
    exact congrArg (fun w => some (channelPermissions entry study { writing with user := w })) huser
  · exact (channelAccess_agrees [.guildCreate college] writer.id nookId).2.1 nook studyId study hnook
      (by decide) rfl hstudy (by decide)
  · refine (channelAccess_agrees [.guildCreate college] stranger nookId).2.2.2 (.inr (.inr ⟨study, ?_, ?_⟩))
    · exact .parent nook studyId hnook (by decide) rfl hstudy
    · exact .inr ⟨collegeId, rfl, .inr ⟨entry, hguild, by decide, by decide⟩⟩

end InteractionKit.Cache
