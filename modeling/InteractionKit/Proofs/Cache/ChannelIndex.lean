import InteractionKit.Proofs.Cache.Channels
import Mathlib.Data.List.Induction
/-
The index of channels against the cached channels, over whole runs.

A cached channel is always listed under the guild that it names. The other direction needs care: the index of a guild is
changed only by events that name that guild, so a channel that moves to another guild, or that is deleted or changed
without its guild, stays listed where it was. Such a channel strays, and strays are exactly what the index has too much.
When the guild is lost, every stray goes with it, wherever it has its home by then.

- `Event.news`: what an event tells about channels.
- `mem_channelIds_step`, `houses_step`: one event, for the index and for the homes.
- `Cache.Strays`: the runs after which a channel is left in an index by mistake.
- `strays_iff`: they are the listed ids without a home in the guild.
- `channelIds_exact_of_settled`: without moves and without unnamed guilds the index is exact.
- `channelIds_exact_iff`: the index is the homes and the strays, and a lost guild takes the strays along.
- `channelIds_not_exact`, `channelIds_of_moved_channel`: a channel that moves and is lost with its old guild.
-/
namespace InteractionKit

/-! ## News -/

/-- what an event tells about channels -/
inductive News where
  /-- a guild, with its channels and threads -/
  | guild (G : Guild)
  /-- a channel or thread as it is now -/
  | channel (ch : Channel)
  /-- a channel or thread that was deleted -/
  | gone (ch : Channel)
  /-- a guild that was left -/
  | lost (g : GuildId)
  | nothing

def Event.news : Event → News
  | .guildCreate G | .guildUpdate G => .guild G
  | .guildDelete L => if L.unavailable then .nothing else .lost L.id
  | .channelCreate ch | .channelUpdate ch | .threadCreate ch | .threadUpdate ch => .channel ch
  | .channelDelete ch | .threadDelete ch => .gone ch
  | _ => .nothing

namespace News

/-- a channel is put under a guild -/
def Lists (n : News) (g : GuildId) (c : ChannelId) : Prop :=
  match n with
  | .guild G => G.id = g ∧ Cache.Carries (G.channels ++ G.threads) c
  | .channel ch => ch.id = c ∧ ch.guildId = some g
  | _ => False

/-- a channel is taken from the list of a guild -/
def Unlists (n : News) (g : GuildId) (c : ChannelId) : Prop :=
  match n with
  | .gone ch => ch.id = c ∧ ch.guildId = some g
  | .lost h => h = g
  | _ => False

/-- a channel is left without a home: it names no guild, is deleted, or goes with a guild that lists it -/
def Unhouses (n : News) (s : Cache) (c : ChannelId) : Prop :=
  match n with
  | .channel ch => ch.id = c ∧ ch.guildId = none
  | .gone ch => ch.id = c
  | .lost h => c ∈ s.channelIds h
  | _ => False

theorem Lists.unique {n : News} {g h : GuildId} {c : ChannelId} (hg : n.Lists g c) (hh : n.Lists h c) : g = h := by
  cases n with
  | guild G => exact hg.1.symm.trans hh.1
  | channel ch => exact Option.some.inj (hg.2.symm.trans hh.2)
  | _ => exact hg.elim

theorem Lists.not_unhouses {n : News} {s : Cache} {g : GuildId} {c : ChannelId} (hn : n.Lists g c) :
    ¬ n.Unhouses s c := by
  intro hu
  cases n with
  | channel ch =>
    have hnone : some g = none := hn.2.symm.trans hu.2
    cases hnone
  | gone ch => exact hn
  | lost g => exact hn
  | _ => exact hu

theorem Unlists.unhouses {n : News} {s : Cache} {g : GuildId} {c : ChannelId} (hn : n.Unlists g c)
    (hc : c ∈ s.channelIds g) : n.Unhouses s c := by
  cases n with
  | gone ch => exact hn.1
  | lost h =>
    cases hn
    exact hc
  | _ => exact hn.elim

end News

namespace Cache

/-! ## One event -/

/-- the part of a step that concerns channels -/
def learn (s : Cache) : News → Cache
  | .guild G => s.putGuild G
  | .channel ch => s.upsertChannel ch
  | .gone ch => s.dropChannel ch
  | .lost g => s.dropGuild g
  | .nothing => s

theorem step_tables (s : Cache) (e : Event) :
    (s.step e).index = (s.learn e.news).index ∧ (s.step e).channels = (s.learn e.news).channels := by
  cases e with
  | guildDelete L =>
    unfold step loseGuild Event.news
    by_cases hL : L.unavailable = true
    · simp [hL, learn]
    · simp [hL, learn]
  | memberAdd e => exact tables_of_besideMembers (putMember_besideMembers s e.guildId e.member)
  | memberUpdate e => exact tables_of_besideMembers (putMember_besideMembers s e.guildId e.member)
  | interactionCreate i => exact tables_of_besideMembers (seeInteraction_besideMembers s i)
  | _ => exact ⟨rfl, rfl⟩

/-- the index after an event: what it lists, and what was listed and is not taken off -/
theorem mem_channelIds_step (s : Cache) (e : Event) (g : GuildId) (c : ChannelId) :
    c ∈ (s.step e).channelIds g ↔ e.news.Lists g c ∨ c ∈ s.channelIds g ∧ ¬ e.news.Unlists g c := by
  rw [mem_channelIds_congr (step_tables s e).1]
  cases e.news with
  | guild G =>
    simp only [learn, News.Lists, News.Unlists, not_false_iff, and_true]
    exact mem_channelIds_putGuild s G g c
  | channel ch =>
    simp only [learn, News.Lists, News.Unlists, not_false_iff, and_true]
    exact mem_channelIds_upsertChannel s ch g c
  | gone ch =>
    simp only [learn, News.Lists, News.Unlists, false_or]
    exact mem_channelIds_dropChannel s ch g c
  | lost h =>
    simp only [learn, News.Lists, News.Unlists, false_or]
    rw [mem_channelIds_dropGuild, and_comm]
  | nothing => simp [learn, News.Lists, News.Unlists]

/-- the homes after an event: where it puts a channel, and where a channel had its home that it leaves alone -/
theorem houses_step (s : Cache) (e : Event) (g : GuildId) (c : ChannelId) :
    (s.step e).Houses g c ↔
      e.news.Lists g c ∨ s.Houses g c ∧ (∀ h, ¬ e.news.Lists h c) ∧ ¬ e.news.Unhouses s c := by
  rw [houses_congr (step_tables s e).2]
  cases e.news with
  | guild G =>
    simp only [learn, News.Lists, News.Unhouses, houses_putGuild]
    by_cases hc : Carries (G.channels ++ G.threads) c
    · simp [hc]
    · simp [hc]
  | channel ch =>
    simp only [learn, News.Lists, News.Unhouses, houses_upsertChannel]
    by_cases hc : ch.id = c
    · cases ch.guildId with
      | none => simp [hc]
      | some h => simp [hc]
    · simp [hc]
  | gone ch =>
    simp only [learn, News.Lists, News.Unhouses, houses_dropChannel]
    simp [and_comm]
  | lost h =>
    simp only [learn, News.Lists, News.Unhouses, houses_dropGuild]
    simp [and_comm]
  | nothing => simp [learn, News.Lists, News.Unhouses]

/-- an event keeps a channel on the list of its home -/
theorem mem_channelIds_step_of_houses {s : Cache} {e : Event} {g : GuildId} {c : ChannelId}
    (hold : s.Houses g c → c ∈ s.channelIds g) (h : (s.step e).Houses g c) : c ∈ (s.step e).channelIds g := by
  rw [houses_step] at h
  rw [mem_channelIds_step]
  rcases h with hl | ⟨hh, -, hu⟩
  · exact .inl hl
  · exact .inr ⟨hold hh, fun hun => hu (hun.unhouses (hold hh))⟩

/-! ## Runs -/

theorem run_snoc (s : Cache) (es : List Event) (e : Event) : s.run (es ++ [e]) = (s.run es).step e := by
  simp [run, List.foldl_append]

theorem not_mem_channelIds_empty (g : GuildId) (c : ChannelId) : c ∉ empty.channelIds g := by
  simp [channelIds, empty, Table.empty, Table.get?, Table.lookup, Table.keys]

theorem not_houses_empty (g : GuildId) (c : ChannelId) : ¬ empty.Houses g c := by
  rintro ⟨ch, hch, -⟩
  cases hch

/-- nothing is missing: a channel is listed where it has its home -/
theorem mem_channelIds_of_houses (es : List Event) {g : GuildId} {c : ChannelId}
    (h : (run empty es).Houses g c) : c ∈ (run empty es).channelIds g := by
  induction es using List.reverseRecOn with
  | nil => exact absurd h (not_houses_empty g c)
  | append_singleton es e ih =>
    rw [run_snoc] at h ⊢
    exact mem_channelIds_step_of_houses ih h

/-! ## Strays -/

/-- an event takes a channel from a guild and leaves it on the list of the guild -/
def TakesAway (s : Cache) (n : News) (g : GuildId) (c : ChannelId) : Prop :=
  ¬ n.Unlists g c ∧ ((∃ h, h ≠ g ∧ n.Lists h c) ∨ n.Unhouses s c)

/-- a channel that had its home in the guild was taken away from it, and since then no event has put it there again or
taken it off the list -/
def Strays (es : List Event) (g : GuildId) (c : ChannelId) : Prop :=
  ∃ before e after, es = before ++ e :: after ∧
    (run empty before).Houses g c ∧ TakesAway (run empty before) e.news g c ∧
    ∀ e' ∈ after, ¬ e'.news.Lists g c ∧ ¬ e'.news.Unlists g c

theorem not_strays_nil (g : GuildId) (c : ChannelId) : ¬ Strays [] g c := by
  rintro ⟨before, e, after, hes, -⟩
  simp at hes

theorem strays_snoc (es : List Event) (e : Event) (g : GuildId) (c : ChannelId) :
    Strays (es ++ [e]) g c ↔
      (run empty es).Houses g c ∧ TakesAway (run empty es) e.news g c ∨
        Strays es g c ∧ ¬ e.news.Lists g c ∧ ¬ e.news.Unlists g c := by
  constructor
  · rintro ⟨before, d, after, hes, hh, ht, hafter⟩
    rcases List.eq_nil_or_concat after with rfl | ⟨after, e', rfl⟩
    · obtain ⟨rfl, hd⟩ := List.append_inj' hes rfl
      cases hd
      exact .inl ⟨hh, ht⟩
    · rw [List.concat_eq_append, ← List.cons_append, ← List.append_assoc] at hes
      obtain ⟨rfl, he⟩ := List.append_inj' hes rfl
      cases he
      refine .inr ⟨⟨before, d, after, rfl, hh, ht, fun e' he' => hafter e' ?_⟩, hafter e ?_⟩
      · simp [he']
      · simp
  · rintro (⟨hh, ht⟩ | ⟨⟨before, d, after, rfl, hh, ht, hafter⟩, he⟩)
    · exact ⟨es, e, [], rfl, hh, ht, by simp⟩
    · refine ⟨before, d, after ++ [e], by simp, hh, ht, fun e' he' => ?_⟩
      rcases List.mem_append.1 he' with he' | he'
      · exact hafter e' he'
      · cases List.mem_singleton.1 he'
        exact he

theorem TakesAway.not_lists {s : Cache} {n : News} {g : GuildId} {c : ChannelId} (h : TakesAway s n g c) :
    ¬ n.Lists g c := by
  intro hl
  rcases h.2 with ⟨k, hne, hk⟩ | hu
  · exact hne (hk.unique hl)
  · exact hl.not_unhouses hu

/-- a channel in its home either stays, or leaves the list as well, or is taken away -/
theorem takesAway_iff {s : Cache} {e : Event} {g : GuildId} {c : ChannelId} (hh : s.Houses g c) :
    TakesAway s e.news g c ↔ ¬ e.news.Unlists g c ∧ ¬ (s.step e).Houses g c := by
  rw [houses_step]
  constructor
  · intro h
    refine ⟨h.1, ?_⟩
    rintro (hl | ⟨-, hnone, hu⟩)
    · exact h.not_lists hl
    · rcases h.2 with ⟨k, -, hk⟩ | hun
      · exact hnone k hk
      · exact hu hun
  · rintro ⟨hun, hnot⟩
    refine ⟨hun, ?_⟩
    by_contra hstays
    simp only [not_or, not_exists, not_and] at hstays hnot
    refine hnot.2 hh (fun k hk => ?_) hstays.2
    by_cases hkg : k = g
    · exact hnot.1 (hkg ▸ hk)
    · exact hstays.1 k hkg hk

/-- after every run the strays are the ids that are listed under a guild and have their home elsewhere or nowhere -/
theorem strays_iff (es : List Event) (g : GuildId) (c : ChannelId) :
    Strays es g c ↔ c ∈ (run empty es).channelIds g ∧ ¬ (run empty es).Houses g c := by
  induction es using List.reverseRecOn with
  | nil => exact ⟨fun h => absurd h (not_strays_nil g c), fun h => absurd h.1 (not_mem_channelIds_empty g c)⟩
  | append_singleton es e ih =>
    rw [strays_snoc, ih, run_snoc, mem_channelIds_step]
    by_cases hh : (run empty es).Houses g c
    · -- a channel in its home strays by this very event or not at all
      have hlisted := mem_channelIds_of_houses es hh
      rw [takesAway_iff hh]
      constructor
      · rintro (⟨-, hun, hnot⟩ | ⟨⟨-, hno⟩, -⟩)
        · exact ⟨.inr ⟨hlisted, hun⟩, hnot⟩
        · exact absurd hh hno
      · rintro ⟨hl | ⟨-, hun⟩, hnot⟩
        · exact absurd ((houses_step _ e g c).2 (.inl hl)) hnot
        · exact .inl ⟨hh, hun, hnot⟩
    · -- a channel elsewhere stays a stray as long as the guild is not named
      rw [houses_step]
      constructor
      · rintro (⟨hno, -⟩ | ⟨⟨hlisted, -⟩, hl, hun⟩)
        · exact absurd hno hh
        · refine ⟨.inr ⟨hlisted, hun⟩, ?_⟩
          rintro (hl' | ⟨hno, -⟩)
          · exact hl hl'
          · exact hh hno
      · rintro ⟨hl | ⟨hlisted, hun⟩, hnot⟩
        · exact absurd (.inl hl) hnot
        · exact .inr ⟨⟨hlisted, hh⟩, fun hl => hnot (.inl hl), hun⟩

/-! ## Settled runs -/

/-- the news places every channel that it speaks of in its own guild -/
def Settled (home : ChannelId → GuildId) (n : News) : Prop :=
  match n with
  | .guild G => ∀ ch ∈ G.channels ++ G.threads, home ch.id = G.id
  | .channel ch | .gone ch => ch.guildId = some (home ch.id)
  | _ => True

theorem Settled.home_eq {home : ChannelId → GuildId} {n : News} {g : GuildId} {c : ChannelId}
    (h : Settled home n) (hn : n.Lists g c) : home c = g := by
  cases n with
  | guild G =>
    obtain ⟨rfl, ch, hch, rfl⟩ := hn
    exact h ch hch
  | channel ch =>
    obtain ⟨rfl, hg⟩ := hn
    exact Option.some.inj ((show ch.guildId = some (home ch.id) from h).symm.trans hg)
  | _ => exact hn.elim

/-- in a settled run a channel is listed under its own guild only -/
theorem home_of_mem_channelIds {home : ChannelId → GuildId} {es : List Event}
    (hes : ∀ e ∈ es, Settled home e.news) {g : GuildId} {c : ChannelId} (hc : c ∈ (run empty es).channelIds g) :
    home c = g := by
  induction es using List.reverseRecOn with
  | nil => exact absurd hc (not_mem_channelIds_empty g c)
  | append_singleton es e ih =>
    rw [run_snoc, mem_channelIds_step] at hc
    rcases hc with hl | ⟨hc, -⟩
    · exact (hes e (by simp)).home_eq hl
    · exact ih (fun d hd => hes d (List.mem_append_left _ hd)) hc

/-- when every event names a channel's own guild, the index of each guild is exactly its cached channels -/
theorem channelIds_exact_of_settled {home : ChannelId → GuildId} {es : List Event}
    (hes : ∀ e ∈ es, Settled home e.news) (g : GuildId) (c : ChannelId) :
    c ∈ (run empty es).channelIds g ↔ (run empty es).Houses g c := by
  refine ⟨fun hc => ?_, mem_channelIds_of_houses es⟩
  by_contra hnot
  obtain ⟨before, e, after, rfl, hh, ⟨hun, haway⟩, -⟩ := (strays_iff es g c).2 ⟨hc, hnot⟩
  have hsettled : Settled home e.news := hes e (by simp)
  have hbefore : ∀ d ∈ before, Settled home d.news := fun d hd => hes d (List.mem_append_left _ hd)
  have hhome : home c = g := home_of_mem_channelIds hbefore (mem_channelIds_of_houses before hh)
  rcases haway with ⟨k, hne, hk⟩ | hu
  · exact hne ((hsettled.home_eq hk).symm.trans hhome)
  · -- the channel loses its home only by events that also take it off the list
    cases hn : e.news with
    | channel ch =>
      rw [hn] at hsettled hu
      have hsome : ch.guildId = some (home ch.id) := hsettled
      rw [hu.2] at hsome
      cases hsome
    | gone ch =>
      rw [hn] at hsettled hu hun
      obtain rfl : ch.id = c := hu
      exact hun ⟨rfl, hhome ▸ hsettled⟩
    | lost h =>
      rw [hn] at hu hun
      exact hun ((home_of_mem_channelIds hbefore hu).symm.trans hhome)
    | guild G =>
      rw [hn] at hu
      exact hu
    | nothing =>
      rw [hn] at hu
      exact hu

/-! ## Main results -/

/-- **The index of a guild.** After every run the index of a guild lists its cached channels and its strays, and a
stray is never a cached channel of the guild. So the index is exact just when nothing strays from the guild; and losing
the guild removes a cached channel of another guild, or of none, just when that channel strays from it. -/
theorem channelIds_exact_iff (es : List Event) (g : GuildId) :
    let s := run empty es
    (∀ c, c ∈ s.channelIds g ↔ s.Houses g c ∨ Strays es g c) ∧
    (∀ c, Strays es g c → ¬ s.Houses g c) ∧
    ((∀ c, c ∈ s.channelIds g ↔ s.Houses g c) ↔ ∀ c, ¬ Strays es g c) ∧
    (∀ (L : LostGuild) (ch : Channel) (c : ChannelId), L.id = g → L.unavailable = false →
      s.channel? c = some ch → ch.guildId ≠ some g →
      ((s.step (.guildDelete L)).channel? c = none ↔ Strays es g c)) := by
  intro s
  refine ⟨fun c => ?_, fun c h => ((strays_iff es g c).1 h).2, ?_, ?_⟩
  · rw [strays_iff]
    constructor
    · intro hc
      by_cases hh : s.Houses g c
      · exact .inl hh
      · exact .inr ⟨hc, hh⟩
    · rintro (hh | ⟨hc, -⟩)
      · exact mem_channelIds_of_houses es hh
      · exact hc
  · constructor
    · intro hexact c hc
      obtain ⟨hlisted, hnot⟩ := (strays_iff es g c).1 hc
      exact hnot ((hexact c).1 hlisted)
    · intro hnone c
      refine ⟨fun hc => ?_, mem_channelIds_of_houses es⟩
      by_contra hnot
      exact hnone c ((strays_iff es g c).2 ⟨hc, hnot⟩)
  · intro L ch c hL hlost hch hg
    have hnot : ¬ s.Houses g c := by
      rintro ⟨ch', hch', hg'⟩
      cases hch.symm.trans hch'
      exact hg hg'
    have hstep : s.step (.guildDelete L) = s.dropGuild g := by
      simp only [step, loseGuild, hlost, hL]
      rfl
    rw [hstep, channel?_dropGuild, strays_iff, hch]
    constructor
    · intro hnone
      by_contra hc
      have hc' : c ∉ s.channelIds g := fun hc' => hc ⟨hc', hnot⟩
      rw [if_neg hc'] at hnone
      cases hnone
    · rintro ⟨hc, -⟩
      rw [if_pos hc]

/-! ## A channel that moves -/

/-- a channel of a guild, of which nothing else is known -/
def lounge (g : GuildId) : Channel := { Channel.stub ⟨20, by decide, by decide⟩ with guildId := some g }

def oldGuild : GuildId := ⟨1, by decide, by decide⟩

def newGuild : GuildId := ⟨2, by decide, by decide⟩

/-- the channel is made in one guild and changed in another -/
def moveLounge : List Event := [.channelCreate (lounge oldGuild), .channelUpdate (lounge newGuild)]

/-- the old guild is left -/
def leaveOld : LostGuild := ⟨oldGuild, false⟩

/-- The channel has its home in the new guild and is still listed in the old one, and is lost with it. -/
theorem channelIds_not_exact :
    (lounge newGuild).id ∈ (run empty moveLounge).channelIds oldGuild ∧
    (run empty moveLounge).channel? (lounge newGuild).id = some (lounge newGuild) ∧
    ¬ (run empty moveLounge).Houses oldGuild (lounge newGuild).id ∧
    ((run empty moveLounge).step (.guildDelete leaveOld)).channel? (lounge newGuild).id = none := by
  refine ⟨by decide, by decide, ?_, by decide⟩
  rintro ⟨ch, hch, hg⟩
  cases hch
  revert hg
  decide

/-- It is lost with the old guild because it strays from there. -/
theorem channelIds_of_moved_channel :
    leaveOld.id = oldGuild ∧ leaveOld.unavailable = false ∧
    (run empty moveLounge).channel? (lounge newGuild).id = some (lounge newGuild) ∧
    (lounge newGuild).guildId ≠ some oldGuild ∧
    (((run empty moveLounge).step (.guildDelete leaveOld)).channel? (lounge newGuild).id = none ↔
      Strays moveLounge oldGuild (lounge newGuild).id) ∧
    Strays moveLounge oldGuild (lounge newGuild).id := by
  have hch : (run empty moveLounge).channel? (lounge newGuild).id = some (lounge newGuild) := by decide
  have hg : (lounge newGuild).guildId ≠ some oldGuild := by decide
  have hiff := (channelIds_exact_iff moveLounge oldGuild).2.2.2 leaveOld _ _ rfl rfl hch hg
  exact ⟨rfl, rfl, hch, hg, hiff, hiff.1 (by decide)⟩

end Cache

end InteractionKit
