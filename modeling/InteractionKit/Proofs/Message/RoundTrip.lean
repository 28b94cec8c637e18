import InteractionKit.Message
import InteractionKit.Proofs.Component.Decoded
/-
Messages are read back from what is written, the styles of their buttons filled in.

- `MessageFlags.inverts`: every flag comes back, a known one or not.
- `Message.withDefaultStyles`, `Message.Styled`: every unset button style filled in, and when there is none.
- `Message.reads`, `Message.ensures_canonical`: canonical messages are read back, and nothing else is read.
-/
namespace InteractionKit

open Decoder Reader

theorem MessageFlags.inverts : MessageFlags.decode.Inverts MessageFlags.encode :=
  ⟨fun f => (uint64_inverts.reads (.ofBitVec f.bits)).map fun n => MessageFlags.mk n.toBitVec, _, rfl⟩

namespace Message

/-- every unset button style filled in -/
def withDefaultStyles (m : Message) : Message := { m with components := m.components.map Component.withDefaultStyles }

/-- every button has a style -/
def Styled (m : Message) : Prop := ∀ c ∈ m.components, c.Styled

def Canonical (m : Message) : Prop := ∀ c ∈ m.components, c.Canonical

theorem withDefaultStyles_eq_self {m : Message} : m.withDefaultStyles = m ↔ m.Styled := by
  obtain ⟨id, channelId, guildId, author, content, components, flags⟩ := m
  simp [withDefaultStyles, Styled, map_eq_self, Component.withDefaultStyles_eq_self]

theorem encode_withDefaultStyles (m : Message) : m.withDefaultStyles.encode = m.encode := by
  have hlist : memberList "components" Component.encode (m.components.map Component.withDefaultStyles) =
      memberList "components" Component.encode m.components := by
    cases m.components with
    | nil => rfl
    | cons c cs => simp [memberList, Component.encode_withDefaultStyles]
  simp only [encode, withDefaultStyles, hlist]

theorem reads {m : Message} (h : m.Canonical) : decode.Reads m.encode m.withDefaultStyles := by
  obtain ⟨id, channelId, guildId, author, content, components, flags⟩ := m
  refine Undoes.decode ?_ (by decide)
  exact (undoes_field (Id.inverts.reads id)).map mk
    |>.seq (undoes_field (Id.inverts.reads channelId))
    |>.seq (undoes_optional Id.inverts guildId)
    |>.seq (undoes_field (User.inverts.reads author))
    |>.seq (undoes_field (text_inverts.reads content))
    |>.seq (undoes_list_map fun c hc => Component.field_reads (h c hc))
    |>.seq (undoes_optional MessageFlags.inverts flags)

theorem ensures_canonical : decode.Ensures Canonical := by
  refine Ensures.decode ?_
  refine .pass (.seq ?_ (ensures_defaulted Component.field_ensures.list (by simp)))
  exact .pass (.pass (.pass (.pass (.map (ensures_true _) fun _ _ _ _ _ _ _ h _ => h))))

end Message

end InteractionKit
