import InteractionKit.Guild
import InteractionKit.Proofs.Json.Ensures
import InteractionKit.Proofs.Json.RoundTrip
import InteractionKit.Proofs.Permissions.Integers
/-
What a guild is made of is read back from what is written.

Users, roles and members come back as they were, with every flag of a set of permissions and every discriminator. A kind
of a channel or of an overwrite comes back from its number unless it hides a name behind the number, so channels come
back when their kinds are canonical, and a channel that was read has canonical kinds.

- `Permissions.inverts`, `Role.inverts`, `User.inverts`, `Member.inverts`.
- `Channel.Canonical`: no kind of the channel hides a name.
- `Channel.reads`, `Channel.ensures_canonical`: canonical channels are read back, and nothing else is read.
-/
namespace InteractionKit

open Decoder Reader

/-! ## Permissions and roles -/

theorem Permissions.inverts : Permissions.decode.Inverts Permissions.encode := ⟨Permissions.decode_encode, _, rfl⟩

theorem RoleColors.inverts : RoleColors.decode.Inverts RoleColors.encode := by
  refine ⟨fun ⟨primary, secondary, tertiary⟩ => ?_, _, rfl⟩
  refine Undoes.decode ?_ (by decide)
  exact (undoes_field (uint32_inverts.reads primary)).map mk
    |>.seq (undoes_optional uint32_inverts secondary)
    |>.seq (undoes_optional uint32_inverts tertiary)

theorem Role.inverts : Role.decode.Inverts Role.encode := by
  refine ⟨fun ⟨id, name, position, permissions, color, colors, hoist, managed, mentionable, icon, unicodeEmoji, flags⟩ =>
    ?_, _, rfl⟩
  refine Undoes.decode ?_ (by decide)
  -- one goal for each field, in their order; the first one carries the constructor
  repeat refine .seq ?_ ?_
  · exact (undoes_field (Id.inverts.reads id)).map mk
  · exact undoes_field (text_inverts.reads name)
  · exact undoes_field (int64_inverts.reads position)
  · exact undoes_field (Permissions.inverts.reads permissions)
  · exact undoes_field (uint32_inverts.reads color)
  · exact undoes_optional RoleColors.inverts colors
  · exact undoes_field (flag_inverts.reads hoist)
  · exact undoes_field (flag_inverts.reads managed)
  · exact undoes_field (flag_inverts.reads mentionable)
  · exact undoes_optional text_inverts icon
  · exact undoes_optional text_inverts unicodeEmoji
  · exact undoes_field (uint64_inverts.reads flags)

/-! ## Users and members -/

/-- a discriminator is read back from its four digits or more -/
theorem User.reads_discriminator (n : UInt16) : decodeDiscriminator.Reads (.str (fourDigits n)) n := by
  have hlt := n.toNat_lt
  have hread : readNatural 65535 (fourDigits n).toList = .ok n.toNat := by
    simp only [fourDigits, String.toList_ofList]
    exact readNatural_zeros (by omega) _
  show decodeDiscriminator.ofValue (.str (fourDigits n)) = .ok n
  simp only [decodeDiscriminator, ofValue_whole, hread, UInt16.ofNat_toNat]

theorem User.inverts : User.decode.Inverts User.encode := by
  refine ⟨fun u => ?_, _, rfl⟩
  refine Undoes.decode ?_ (by decide)
  exact (undoes_field (Id.inverts.reads u.id)).map mk
    |>.seq (undoes_field (text_inverts.reads u.name))
    |>.seq (undoes_field (reads_discriminator u.discriminator))
    |>.seq (undoes_optional text_inverts u.globalName)
    |>.seq (undoes_optional text_inverts u.avatar)
    |>.seq (undoes_field (flag_inverts.reads u.bot))
    |>.seq (undoes_field (flag_inverts.reads u.system))

theorem Member.undoes (m : Member) : reader.Undoes m.members m :=
  (undoes_optional User.inverts m.user).map mk
    |>.seq (undoes_optional text_inverts m.nick)
    |>.seq (undoes_field (reads_list fun r _ => Id.inverts.reads r))
    |>.seq (undoes_optional text_inverts m.joinedAt)
    |>.seq (undoes_field (flag_inverts.reads m.deaf))
    |>.seq (undoes_field (flag_inverts.reads m.mute))
    |>.seq (undoes_field (flag_inverts.reads m.pending))
    |>.seq (undoes_optional Permissions.inverts m.permissions)

theorem Member.inverts : Member.decode.Inverts Member.encode :=
  ⟨fun m => m.undoes.decode (by decide), _, rfl⟩

/-! ## Kinds of channels and overwrites -/

/-- a channel kind is read back from its number, unless it hides a name behind the number -/
theorem ChannelKind.reads {k : ChannelKind} (h : k.Canonical) : ChannelKind.decode.Reads k.encode k :=
  reads_ofCode uint16_inverts h

/-- a kind keeps the number it was read from -/
theorem ChannelKind.code_ofCode (n : UInt16) : (ofCode n).code = n := by
  unfold ofCode
  split <;> first | rfl | exact UInt16.toNat_inj.1 (Eq.symm ‹_›)

theorem ChannelKind.ensures_canonical : ChannelKind.decode.Ensures Canonical := ensures_ofCode code_ofCode

theorem OverwriteKind.reads {k : OverwriteKind} (h : k.Canonical) : OverwriteKind.decode.Reads k.encode k :=
  reads_ofCode uint8_inverts h

theorem OverwriteKind.code_ofCode (n : UInt8) : (ofCode n).code = n := by
  unfold ofCode
  split <;> first | rfl | exact UInt8.toNat_inj.1 (Eq.symm ‹_›)

theorem OverwriteKind.ensures_canonical : OverwriteKind.decode.Ensures Canonical := ensures_ofCode code_ofCode

/-! ## Channels -/

theorem Overwrite.reads {o : Overwrite} (h : o.kind.Canonical) : Overwrite.decode.Reads o.encode o :=
  ((undoes_field (Id.inverts.reads o.id)).map mk
    |>.seq (undoes_field (OverwriteKind.reads h))
    |>.seq (undoes_field (Permissions.inverts.reads o.allow))
    |>.seq (undoes_field (Permissions.inverts.reads o.deny))).decode (by decide)

theorem Overwrite.ensures_canonical : Overwrite.decode.Ensures fun o => o.kind.Canonical := by
  refine Ensures.decode ?_
  refine .pass (.pass (.seq ?_ (ensures_required OverwriteKind.ensures_canonical)))
  exact Reader.Ensures.map (Reader.ensures_true _) fun _ _ _ hkind _ _ => hkind

theorem ThreadMetadata.inverts : ThreadMetadata.decode.Inverts ThreadMetadata.encode := by
  refine ⟨fun ⟨archived, autoArchiveDuration, archiveTimestamp, locked, invitable⟩ => ?_, _, rfl⟩
  refine Undoes.decode ?_ (by decide)
  exact (undoes_field (flag_inverts.reads archived)).map mk
    |>.seq (undoes_field (uint16_inverts.reads autoArchiveDuration))
    |>.seq (undoes_optional text_inverts archiveTimestamp)
    |>.seq (undoes_field (flag_inverts.reads locked))
    |>.seq (undoes_optional flag_inverts invitable)

/-- no kind of a channel hides a name behind its number -/
structure Channel.Canonical (c : Channel) : Prop where
  kind : c.kind.Canonical
  overwrites : ∀ o ∈ c.overwrites, o.kind.Canonical

theorem Channel.reads {c : Channel} (h : c.Canonical) : Channel.decode.Reads c.encode c := by
  obtain ⟨id, kind, guildId, name, position, parentId, overwrites, topic, nsfw, ownerId, memberCount, messageCount,
    threadMetadata⟩ := c
  refine Undoes.decode ?_ (by decide)
  repeat refine .seq ?_ ?_
  · exact (undoes_field (Id.inverts.reads id)).map mk
  · exact undoes_field (ChannelKind.reads h.kind)
  · exact undoes_optional Id.inverts guildId
  · exact undoes_optional text_inverts name
  · exact undoes_optional int32_inverts position
  · exact undoes_optional Id.inverts parentId
  · exact undoes_list fun o ho => Overwrite.reads (h.overwrites o ho)
  · exact undoes_optional text_inverts topic
  · exact undoes_field (flag_inverts.reads nsfw)
  · exact undoes_optional Id.inverts ownerId
  · exact undoes_optional uint32_inverts memberCount
  · exact undoes_optional uint32_inverts messageCount
  · exact undoes_optional ThreadMetadata.inverts threadMetadata

theorem Channel.ensures_canonical : Channel.decode.Ensures Canonical := by
  refine Ensures.decode ?_
  -- behind the overwrites, then between them and the kind, no field matters
  iterate 6 refine .pass ?_
  refine .seq ?_ (ensures_defaulted Overwrite.ensures_canonical.list (by simp))
  iterate 4 refine .pass ?_
  refine .seq ?_ (ensures_defaulted ChannelKind.ensures_canonical rfl)
  refine Reader.Ensures.map (Reader.ensures_true _) ?_
  intro id _ kind hkind guildId name position parentId overwrites hoverwrites
  intros
  exact ⟨hkind, hoverwrites⟩

end InteractionKit
