import InteractionKit.Proofs.Interaction.Data
import InteractionKit.Proofs.Message.RoundTrip
/-
Interactions survive the wire.

An interaction is read back field by field, its data as a raw value first. The raw value is stored already, so it is read
once more as the data of the kind. What the fields and the data owe to be read back is what reading them ensures.

- `Interaction.withDefaultStyles`: every unset button style of the message and of the modal filled in.
- `Interaction.Styled`: every button there has a style.
- `Interaction.canonical_of_decode`: what is read is canonical.
- `Interaction.decode_encode`: what is canonical is read back, with its styles filled in.
- `interaction_round_trip`: whatever was read survives the wire.
-/
namespace InteractionKit

open Decoder Reader

/-! ## Kinds -/

namespace InteractionKind

/-- an unknown kind only for a number that has no name -/
def Canonical (k : InteractionKind) : Prop := ofCode k.code = k

theorem reads {k : InteractionKind} (h : k.Canonical) : decode.Reads k.encode k := reads_ofCode uint16_inverts h

theorem code_ofCode (n : UInt16) : (ofCode n).code = n := by
  unfold ofCode
  split <;> first | rfl | exact UInt16.toNat_inj.1 (Eq.symm ‹_›)

theorem ensures_canonical : decode.Ensures Canonical := ensures_ofCode code_ofCode

end InteractionKind

/-! ## Interactions -/

namespace Interaction

/-- every unset button style filled in, in the message and in the modal -/
def withDefaultStyles (i : Interaction) : Interaction :=
  { i with
    data := i.data.map InteractionData.withDefaultStyles
    message := i.message.map Message.withDefaultStyles }

/-- every button in the message and in the modal has a style -/
structure Styled (i : Interaction) : Prop where
  data : ∀ d ∈ i.data, d.Styled
  message : ∀ m ∈ i.message, m.Styled

/-- the data has the form of the kind, and nothing hides a name behind a number -/
structure Canonical (i : Interaction) : Prop where
  kind : i.kind.Canonical
  data : ∀ d ∈ i.data, d.Canonical ∧ d.Fits i.kind
  channel : ∀ c ∈ i.channel, c.Canonical
  message : ∀ m ∈ i.message, m.Canonical

theorem withDefaultStyles_eq_self {i : Interaction} : i.withDefaultStyles = i ↔ i.Styled := by
  have hdata : i.data.map InteractionData.withDefaultStyles = i.data ↔ ∀ d ∈ i.data, d.Styled := by
    cases i.data <;> simp [InteractionData.withDefaultStyles_eq_self]
  have hmessage : i.message.map Message.withDefaultStyles = i.message ↔ ∀ m ∈ i.message, m.Styled := by
    cases i.message <;> simp [Message.withDefaultStyles_eq_self]
  constructor
  · intro h
    exact ⟨hdata.1 (congrArg Envelope.data h), hmessage.1 (congrArg Envelope.message h)⟩
  · intro h
    unfold withDefaultStyles
    rw [hdata.2 h.data, hmessage.2 h.message]

theorem encode_withDefaultStyles (i : Interaction) : i.withDefaultStyles.encode = i.encode := by
  have hdata : memberSome "data" InteractionData.encode (i.data.map InteractionData.withDefaultStyles) =
      memberSome "data" InteractionData.encode i.data := by
    cases i.data <;> simp [memberSome, InteractionData.encode_withDefaultStyles]
  have hmessage : memberSome "message" Message.encode (i.message.map Message.withDefaultStyles) =
      memberSome "message" Message.encode i.message := by
    cases i.message <;> simp [memberSome, Message.encode_withDefaultStyles]
  simp only [encode, withDefaultStyles, hdata, hmessage]

/-! ### Reading back -/

/-- the fields of an interaction as they are read back, its data still raw -/
def envelope (i : Interaction) : Envelope Json :=
  ⟨i.id, i.applicationId, i.kind, i.data.map fun d => d.encode.canonical, i.guildId, i.channelId, i.channel, i.member,
    i.user, i.token, i.version, i.message.map Message.withDefaultStyles, i.appPermissions, i.locale, i.guildLocale⟩

theorem reads_envelope {i : Interaction} (h : i.Canonical) :
    (reader.decode "InteractionEnvelope").Reads i.encode i.envelope := by
  obtain ⟨id, applicationId, kind, data, guildId, channelId, channel, member, user, token, version, message,
    appPermissions, locale, guildLocale⟩ := i
  refine Undoes.decode ?_ (by decide)
  repeat refine .seq ?_ ?_
  · exact (undoes_field (Id.inverts.reads id)).map Envelope.mk
  · exact undoes_field (Id.inverts.reads applicationId)
  · exact undoes_field (InteractionKind.reads h.kind)
  · exact undoes_raw fun d _ => d.encode_ne_null
  · exact undoes_optional Id.inverts guildId
  · exact undoes_optional Id.inverts channelId
  · exact undoes_optional_of (fun c hc => Channel.reads (h.channel c hc)) ⟨_, rfl⟩
  · exact undoes_optional Member.inverts member
  · exact undoes_optional User.inverts user
  · exact undoes_field (text_inverts.reads token)
  · exact undoes_field (uint8_inverts.reads version)
  · exact undoes_optional_map (fun m hm => Message.reads (h.message m hm)) ⟨_, rfl⟩
  · exact undoes_optional Permissions.inverts appPermissions
  · exact undoes_optional text_inverts locale
  · exact undoes_optional text_inverts guildLocale

/-- the raw data is read by the kind -/
theorem dataOf_envelope {i : Interaction} (h : i.Canonical) :
    dataOf i.envelope = .ok (i.data.map InteractionData.withDefaultStyles) := by
  obtain ⟨id, applicationId, kind, data, guildId, channelId, channel, member, user, token, version, message,
    appPermissions, locale, guildLocale⟩ := i
  cases data with
  | none => rfl
  | some d =>
    obtain ⟨hd, hk⟩ := h.data d rfl
    exact InteractionData.decodeAs_encode hd hk

/-- a canonical interaction is read back with its styles filled in -/
theorem decode_encode {i : Interaction} (h : i.Canonical) : decode i.encode.canonical = .ok i.withDefaultStyles := by
  have hfields : (reader.decode "InteractionEnvelope").ofValue i.encode.canonical = .ok i.envelope := reads_envelope h
  simp only [decode, hfields, dataOf_envelope h]; rfl

/-! ### What is read -/

/-- what the fields of an interaction owe, its data apart -/
structure FieldsCanonical (e : Envelope Json) : Prop where
  kind : e.kind.Canonical
  channel : ∀ c ∈ e.channel, c.Canonical
  message : ∀ m ∈ e.message, m.Canonical

theorem reader_ensures : reader.Ensures FieldsCanonical := by
  -- the message, the channel and the kind, each behind fields of no concern
  iterate 3 refine .pass ?_
  refine .seq ?_ (ensures_optional Message.ensures_canonical)
  iterate 4 refine .pass ?_
  refine .seq ?_ (ensures_optional Channel.ensures_canonical)
  iterate 3 refine .pass ?_
  refine .seq ?_ (ensures_required InteractionKind.ensures_canonical)
  refine .pass (.map (ensures_true _) ?_)
  intro id _ applicationId kind hkind data guildId channelId channel hchannel member user token version message hmessage
  intros
  exact ⟨hkind, hchannel, hmessage⟩

/-- every interaction that is read is canonical -/
theorem canonical_of_decode {v : Json} {i : Interaction} (h : decode v = .ok i) : i.Canonical := by
  unfold decode at h
  split at h
  · cases h
  · next e he =>
    have hfields : FieldsCanonical e := reader_ensures.decode he
    split at h
    · cases h
    · next data hdata =>
      cases h
      refine ⟨hfields.kind, fun d hd => ?_, hfields.channel, hfields.message⟩
      unfold dataOf at hdata
      split at hdata
      · exact InteractionData.of_decodeAs hdata d hd
      · cases hdata
        cases hd

/-- an interaction written, stored and read -/
def relay (i : Interaction) : Except DecodeError Interaction := decode i.encode.canonical

end Interaction

/-! ## Main result -/

/-- **Interactions survive the wire.** Whatever value an interaction was read from, it is written and read back with
nothing changed but the unset button styles of its message and of its modal, which come back as the primary one. Filled
in styles make no difference to what is written, and the interaction comes back as it was exactly when no button there
lacks a style. -/
theorem interaction_round_trip {v : Json} {i : Interaction} (h : Interaction.decode v = .ok i) :
    i.relay = .ok i.withDefaultStyles ∧ i.withDefaultStyles.encode = i.encode ∧ (i.relay = .ok i ↔ i.Styled) := by
  have hrelay : i.relay = .ok i.withDefaultStyles := Interaction.decode_encode (Interaction.canonical_of_decode h)
  refine ⟨hrelay, i.encode_withDefaultStyles, ?_⟩
  rw [hrelay, Except.ok.injEq, Interaction.withDefaultStyles_eq_self]

/-- a command with nested options, chosen entities, a channel of an unknown kind, and a button without a style in the
message -/
def arrival : Json :=
  .obj [
    ("id", .str "60"), ("application_id", .int 61), ("type", .int 2), ("token", .str "t"),
    ("data", .obj [
      ("id", .str "62"), ("name", .str "pay"),
      ("options", .arr [.obj [("name", .str "send"), ("type", .int 1),
        ("options", .arr [.obj [("name", .str "sum"), ("type", .int 4), ("value", .arr [.int 3])]])]]),
      ("resolved", .obj [("users", .obj [("0063", .obj [("id", .str "63"), ("discriminator", .str "42")])])])]),
    ("channel", .obj [("id", .str "64"), ("type", .int 99)]),
    ("message", .obj [("id", .str "65"), ("channel_id", .str "64"), ("author", .obj [("id", .str "63")]),
      ("components", .arr [.obj [("type", .int 1), ("components", .arr [.obj [("type", .int 2)]])]])])]

/-- a user with a discriminator that was written short -/
def payee : User := { User.stub ⟨63, by decide, by decide⟩ with discriminator := 42 }

/-- the interaction that arrives, over the style of its one button -/
def arrived (style : Option ButtonStyle) : Interaction where
  id := ⟨60, by decide, by decide⟩
  applicationId := ⟨61, by decide, by decide⟩
  kind := .command
  data := some (.command {
    id := ⟨62, by decide, by decide⟩
    name := "pay"
    kind := .chatInput
    guildId := none
    options := [.mk "send" .subCommand none [.mk "sum" .integer (some (.arr [.int 3])) [] false] false]
    resolved := some ⟨Table.empty.insert ⟨63, by decide, by decide⟩ payee, .empty, .empty, .empty⟩
    targetId := none })
  guildId := none
  channelId := none
  channel := some { Channel.stub ⟨64, by decide, by decide⟩ with kind := .unknown 99 }
  member := none
  user := none
  token := "t"
  version := 1
  message := some {
    id := ⟨65, by decide, by decide⟩
    channelId := ⟨64, by decide, by decide⟩
    guildId := none
    author := User.stub ⟨63, by decide, by decide⟩
    content := ""
    components := [.actionRow (.new [.button { Button.blank with style := style }])]
    flags := none }
  appPermissions := none
  locale := none
  guildLocale := none

theorem interaction_round_trip_arrival :
    Interaction.decode arrival = .ok (arrived none) ∧ (arrived none).relay = .ok (arrived (some .primary)) ∧
      (arrived none).relay ≠ .ok (arrived none) := by
  have harrived : Interaction.decode arrival = .ok (arrived none) := rfl
  obtain ⟨hrelay, -, hself⟩ := interaction_round_trip harrived
  refine ⟨harrived, hrelay, fun h => ?_⟩
  -- its one button has no style
  exact ((hself.1 h).message _ rfl _ List.mem_cons_self).1 rfl

end InteractionKit
