import InteractionKit.Proofs.Guild.Parts
/-
Guild snapshots survive the wire.

Every part of a guild is read back as it was, its channels and threads as far as their kinds are canonical. A guild that
was read has canonical kinds only, so the guilds that come back as they were are exactly the canonical ones, and a
second trip never changes what the first one gave.

- `User.fourDigits_digits`, `User.length_fourDigits`: how a discriminator is written.
- `Guild.Canonical`: no kind in the guild hides a name behind its number.
- `Guild.reads`, `Guild.ensures_canonical`: canonical guilds are read back, and nothing else is read.
- `guild_round_trip`: the guilds that survive the wire.
-/
namespace InteractionKit

open Decoder Reader

/-! ## Discriminators -/

namespace User

theorem toList_fourDigits (n : UInt16) :
    (fourDigits n).toList =
      List.replicate (4 - (Nat.toDigits 10 n.toNat).length) '0' ++ Nat.toDigits 10 n.toNat :=
  String.toList_ofList

theorem fourDigits_digits (n : UInt16) : ∀ c ∈ (fourDigits n).toList, c.isDigit = true := by
  rw [toList_fourDigits]
  exact isDigit_zeros _ _

/-- the zeros in front make no difference to the number -/
theorem ofDigitChars_fourDigits (n : UInt16) : Nat.ofDigitChars 10 (fourDigits n).toList 0 = n.toNat := by
  rw [toList_fourDigits]
  exact ofDigitChars_zeros _ _

/-- there are no more zeros than it takes to come to four digits -/
theorem length_fourDigits (n : UInt16) : (fourDigits n).length = max 4 (Nat.toDigits 10 n.toNat).length := by
  rw [← String.length_toList, toList_fourDigits, List.length_append, List.length_replicate]
  omega

theorem get?_discriminator_encode (u : User) :
    u.encode.get? "discriminator" = some (.str (fourDigits u.discriminator)) := by
  simp [encode, member, Json.get?, Json.find]

end User

/-! ## Guilds -/

namespace Guild

/-- no kind of a channel, of a thread or of an overwrite in the guild hides a name behind its number -/
structure Canonical (g : Guild) : Prop where
  channels : ∀ c ∈ g.channels, c.Canonical
  threads : ∀ c ∈ g.threads, c.Canonical

theorem reads {g : Guild} (h : g.Canonical) : decode.Reads g.encode g := by
  obtain ⟨id, name, ownerId, icon, roles, channels, threads, members, unavailable⟩ := g
  refine Undoes.decode ?_ (by decide)
  repeat refine .seq ?_ ?_
  · exact (undoes_field (Id.inverts.reads id)).map mk
  · exact undoes_field (text_inverts.reads name)
  · exact undoes_field (Id.inverts.reads ownerId)
  · exact undoes_optional text_inverts icon
  · exact undoes_field (reads_list fun r _ => Role.inverts.reads r)
  · exact undoes_list fun c hc => Channel.reads (h.channels c hc)
  · exact undoes_list fun c hc => Channel.reads (h.threads c hc)
  · exact undoes_list fun m _ => Member.inverts.reads m
  · exact undoes_field (flag_inverts.reads unavailable)

theorem ensures_canonical : decode.Ensures Canonical := by
  have hchannels {key : String} : (defaulted key [] (Decoder.list Channel.decode)).Ensures
      fun cs => ∀ c ∈ cs, c.Canonical := ensures_defaulted Channel.ensures_canonical.list (by simp)
  refine Ensures.decode ?_
  -- the threads stand before the members and the last flag, the channels right before the threads
  refine .pass (.pass (.seq (.seq ?_ hchannels) hchannels))
  iterate 4 refine .pass ?_
  refine .map (ensures_true _) ?_
  intro id _ name ownerId icon roles channels hc threads ht
  intros
  exact ⟨hc, ht⟩

/-- a guild written, stored and read -/
def relay (g : Guild) : Except ReadError Guild := decode g.encode.canonical

/-- the guilds that come back as they were -/
theorem relay_eq_self {g : Guild} : g.relay = .ok g ↔ g.Canonical :=
  ⟨fun h => ensures_canonical h, fun h => reads h⟩

end Guild

/-! ## Main result -/

/-- **Guild snapshots survive the wire.** The guilds that come back exactly as they were are those without a kind that
hides a name behind its number. Every guild that was read, from whatever value, is one of them, and is written the same
again when it comes back. Discriminators are written in digits alone, four at least and no zero more than that takes. -/
theorem guild_round_trip :
    (∀ g : Guild, g.relay = .ok g ↔ g.Canonical) ∧
    (∀ (v : Json) (g : Guild), Guild.decode v = .ok g →
      g.relay = .ok g ∧ g.relay.map Guild.encode = .ok g.encode) ∧
    ∀ u : User, ∃ s, u.encode.get? "discriminator" = some (.str s) ∧ (∀ c ∈ s.toList, c.isDigit = true) ∧
      Nat.ofDigitChars 10 s.toList 0 = u.discriminator.toNat ∧
      s.length = max 4 (Nat.toDigits 10 u.discriminator.toNat).length := by
  refine ⟨fun g => Guild.relay_eq_self, fun v g h => ?_, fun u => ?_⟩
  · have hrelay : g.relay = .ok g := Guild.relay_eq_self.2 (Guild.ensures_canonical h)
    exact ⟨hrelay, by rw [hrelay]; rfl⟩
  · exact ⟨_, u.get?_discriminator_encode, User.fourDigits_digits _, User.ofDigitChars_fourDigits _,
      User.length_fourDigits _⟩

/-- a guild with kinds that have no name, a thread, permissions that have none, and a discriminator that is written
short -/
def snapshot : Json :=
  .obj [
    ("id", .int 76), ("name", .str "town"), ("owner_id", .str "77"), ("joined_at", .str "today"),
    ("roles", .arr [.obj [("id", .str "76"), ("name", .str "@everyone"), ("permissions", .str "9223372036854775809")]]),
    ("channels", .arr [.obj [("id", .str "78"), ("type", .int 99),
      ("permission_overwrites", .arr [.obj [("id", .str "77"), ("type", .int 7), ("deny", .str "1024")]])]]),
    ("threads", .arr [.obj [("id", .str "79"), ("type", .int 11), ("parent_id", .str "78"),
      ("thread_metadata", .obj [("archived", .bool true), ("auto_archive_duration", .int 60)])]]),
    ("members", .arr [
      .obj [("user", .obj [("id", .str "77"), ("discriminator", .str "7")]), ("permissions", .str "1")],
      .obj [("nick", .str "guest"), ("roles", .arr [.str "76"])]])]

/-- the guild of the snapshot -/
def town : Guild where
  id := ⟨76, by decide, by decide⟩
  name := "town"
  ownerId := ⟨77, by decide, by decide⟩
  icon := none
  roles := [⟨⟨76, by decide, by decide⟩, "@everyone", 0, ⟨0x8000000000000001⟩, 0, none, false, false, false, none, none,
    0⟩]
  channels := [{ Channel.stub ⟨78, by decide, by decide⟩ with
    kind := .unknown 99, overwrites := [⟨⟨77, by decide, by decide⟩, .unknown 7, .empty, ⟨1024⟩⟩] }]
  threads := [{ Channel.stub ⟨79, by decide, by decide⟩ with
    kind := .publicThread, parentId := some ⟨78, by decide, by decide⟩,
    threadMetadata := some ⟨true, 60, none, false, none⟩ }]
  members := [
    ⟨some { User.stub ⟨77, by decide, by decide⟩ with discriminator := 7 }, none, [], none, false, false, false,
      some ⟨1⟩⟩,
    ⟨none, some "guest", [⟨76, by decide, by decide⟩], none, false, false, false, none⟩]
  unavailable := false

theorem guild_round_trip_town : Guild.decode snapshot = .ok town ∧ town.relay = .ok town ∧ town.Canonical := by
  have hdecode : Guild.decode snapshot = .ok town := rfl
  have hrelay : town.relay = .ok town := (guild_round_trip.2.1 snapshot town hdecode).1
  exact ⟨hdecode, hrelay, (guild_round_trip.1 town).1 hrelay⟩

end InteractionKit
