import InteractionKit.Interaction.Basic
import InteractionKit.Proofs.Component.Decoded
import InteractionKit.Proofs.Interaction.Options
import InteractionKit.Proofs.Interaction.Resolved
/-
The data of interactions is read back from what is written, once the kind of the interaction is known.

What a command, a component and a modal send is written without a word about which of the three it is. Each is read back
by its own reader: a command with its options and its entities, a component with its entities, a modal with the styles of
its buttons filled in.

- `InteractionData.Fits`: the data has the form that a kind asks for.
- `InteractionData.decodeAs_encode`: data that fits is read back.
- `InteractionData.of_decodeAs`: only data that fits is read.
-/
namespace InteractionKit

open Decoder Reader

/-! ## Commands -/

theorem CommandKind.inverts : CommandKind.decode.Inverts CommandKind.encode :=
  code_inverts fun k => by cases k <;> exact ⟨by decide, rfl⟩

structure CommandData.Canonical (c : CommandData) : Prop where
  options : ∀ o ∈ c.options, o.Canonical
  resolved : ∀ r ∈ c.resolved, r.Canonical

theorem CommandData.reads {c : CommandData} (h : c.Canonical) : CommandData.decode.Reads c.encode c := by
  obtain ⟨id, name, kind, guildId, options, resolved, targetId⟩ := c
  refine Undoes.decode ?_ (by decide)
  exact (undoes_field (Id.inverts.reads id)).map mk
    |>.seq (undoes_field (text_inverts.reads name))
    |>.seq (undoes_field (CommandKind.inverts.reads kind))
    |>.seq (undoes_optional Id.inverts guildId)
    |>.seq (undoes_list fun o ho => CommandOption.reads (h.options o ho))
    |>.seq (undoes_optional_of (fun r hr => Resolved.reads (h.resolved r hr)) Resolved.refusesNull)
    |>.seq (undoes_optional Id.inverts targetId)

theorem CommandData.ensures_canonical : CommandData.decode.Ensures Canonical := by
  refine Ensures.decode ?_
  refine .pass (.seq ?_ (ensures_optional Resolved.ensures_canonical))
  refine .seq ?_ (ensures_defaulted CommandOption.ensures_canonical.list (by simp))
  exact .pass (.pass (.pass (.map (ensures_true _) fun _ _ _ _ _ _ ho _ hr _ => ⟨ho, hr⟩)))

/-! ## Components -/

theorem ComponentKind.inverts : ComponentKind.decode.Inverts ComponentKind.encode :=
  code_inverts fun k => ⟨k.code_le.trans (by decide), k.ofCode?_code⟩

def ComponentData.Canonical (d : ComponentData) : Prop := ∀ r ∈ d.resolved, r.Canonical

theorem ComponentData.reads {d : ComponentData} (h : d.Canonical) : ComponentData.decode.Reads d.encode d :=
  ((undoes_field (text_inverts.reads d.customId)).map mk
    |>.seq (undoes_field (ComponentKind.inverts.reads d.kind))
    |>.seq (undoes_list fun s _ => text_inverts.reads s)
    |>.seq (undoes_optional_of (fun r hr => Resolved.reads (h r hr)) Resolved.refusesNull)).decode (by decide)

theorem ComponentData.ensures_canonical : ComponentData.decode.Ensures Canonical := by
  refine Ensures.decode ?_
  refine .seq (.pass (.pass ?_)) (ensures_optional Resolved.ensures_canonical)
  exact .map (ensures_true _) fun _ _ _ _ _ hr => hr

/-! ## Modals -/

namespace Submission

/-- every unset button style filled in -/
def withDefaultStyles (s : Submission) : Submission :=
  { s with components := s.components.map ModalComponent.withDefaultStyles }

/-- every button has a style -/
def Styled (s : Submission) : Prop := ∀ c ∈ s.components, c.Styled

def Canonical (s : Submission) : Prop := ∀ c ∈ s.components, c.Canonical

theorem withDefaultStyles_eq_self {s : Submission} : s.withDefaultStyles = s ↔ s.Styled := by
  obtain ⟨customId, components⟩ := s
  simp [withDefaultStyles, Styled, map_eq_self, ModalComponent.withDefaultStyles_eq_self]

theorem encode_withDefaultStyles (s : Submission) : s.withDefaultStyles.encode = s.encode := by
  simp only [encode, withDefaultStyles, ModalComponent.map_encode_withDefaultStyles]

theorem reads {s : Submission} (h : s.Canonical) : decode.Reads s.encode s.withDefaultStyles :=
  ((undoes_field (text_inverts.reads s.customId)).map mk
    |>.seq (undoes_field (reads_list_map fun c hc => ModalComponent.field_reads (h c hc)))).decode (by decide)

theorem ensures_canonical : decode.Ensures Canonical := by
  refine Ensures.decode ?_
  refine .seq ?_ (ensures_required ModalComponent.field_ensures.list)
  exact .map (ensures_true _) fun _ _ _ h => h

end Submission

/-! ## Data -/

namespace InteractionData

def withDefaultStyles : InteractionData → InteractionData
  | modal s => modal s.withDefaultStyles
  | d => d

/-- every button has a style; only modals send any -/
def Styled : InteractionData → Prop
  | modal s => s.Styled
  | _ => True

def Canonical : InteractionData → Prop
  | command c => c.Canonical
  | component d => d.Canonical
  | modal s => s.Canonical

/-- the data has the form that a kind asks for -/
def Fits : InteractionData → InteractionKind → Prop
  | command _, k => k = .command ∨ k = .autocomplete
  | component _, k => k = .component
  | modal _, k => k = .modalSubmit

theorem withDefaultStyles_eq_self {d : InteractionData} : d.withDefaultStyles = d ↔ d.Styled := by
  cases d with
  | modal s => simp [withDefaultStyles, Styled, Submission.withDefaultStyles_eq_self]
  | _ => simp [withDefaultStyles, Styled]

theorem encode_withDefaultStyles (d : InteractionData) : d.withDefaultStyles.encode = d.encode := by
  cases d with
  | modal s => exact s.encode_withDefaultStyles
  | _ => rfl

theorem encode_ne_null (d : InteractionData) : d.encode ≠ .null := by cases d <;> exact Json.noConfusion

theorem ofForm_eq {α : Type} {decode : Decoder α} {f : α → InteractionData} {v : Json} {a : α}
    (h : decode.ofValue v = .ok a) : ofForm decode f v = .ok (some (f a)) := by
  simp only [ofForm, h]

/-- data is read back by the kind that it fits, though nothing in it tells its form -/
theorem decodeAs_encode {d : InteractionData} {k : InteractionKind} (hd : d.Canonical) (hk : d.Fits k) :
    decodeAs k d.encode.canonical = .ok (some d.withDefaultStyles) := by
  cases d with
  | command c =>
    have hc := ofForm_eq (f := command) (CommandData.reads hd)
    rcases hk with rfl | rfl
    · exact hc
    · exact hc
  | component d =>
    obtain rfl : k = .component := hk
    exact ofForm_eq (f := component) (ComponentData.reads hd)
  | modal s =>
    obtain rfl : k = .modalSubmit := hk
    exact ofForm_eq (f := modal) (Submission.reads hd)

theorem of_ofForm {α : Type} {P : α → Prop} {decode : Decoder α} {f : α → InteractionData} {v : Json}
    {o : Option InteractionData} (h : decode.Ensures P) (ho : ofForm decode f v = .ok o) :
    ∃ a, P a ∧ o = some (f a) := by
  unfold ofForm at ho
  split at ho
  · next a ha =>
    cases ho
    exact ⟨a, h ha, rfl⟩
  · cases ho

/-- a kind reads only canonical data of its own form -/
theorem of_decodeAs {k : InteractionKind} {v : Json} {o : Option InteractionData} (h : decodeAs k v = .ok o) :
    ∀ d ∈ o, d.Canonical ∧ d.Fits k := by
  intro d hd
  cases k with
  | command =>
    obtain ⟨c, hc, rfl⟩ := of_ofForm CommandData.ensures_canonical h
    cases hd
    exact ⟨hc, .inl rfl⟩
  | autocomplete =>
    obtain ⟨c, hc, rfl⟩ := of_ofForm CommandData.ensures_canonical h
    cases hd
    exact ⟨hc, .inr rfl⟩
  | component =>
    obtain ⟨c, hc, rfl⟩ := of_ofForm ComponentData.ensures_canonical h
    cases hd
    exact ⟨hc, rfl⟩
  | modalSubmit =>
    obtain ⟨c, hc, rfl⟩ := of_ofForm Submission.ensures_canonical h
    cases hd
    exact ⟨hc, rfl⟩
  | ping | unknown _ =>
    cases h
    cases hd

end InteractionData

end InteractionKit
