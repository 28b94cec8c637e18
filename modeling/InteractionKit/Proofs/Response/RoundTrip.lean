import InteractionKit.Proofs.Message.RoundTrip
import InteractionKit.Proofs.Response.Forms
/-
Responses survive the wire.

Nothing that is written tells the form of the data. A modal is tried first and fits what was written of a modal. Choices
are written without the `custom_id` that a modal needs, a message without that and without the `choices` that choices
need, so neither is taken for an earlier form, whatever it holds. Data comes back in its own form, the styles of its
buttons filled in and its raw values stored.

- `Response.withDefaultStyles`, `Response.Styled`: every unset button style filled in, and when there is none.
- `Response.stored`, `Response.Stored`: the values of choices as they are stored, and when they are.
- `ResponseData.reads`: data is read back in its own form.
- `Response.ensures`: what is read is canonical and stored.
- `response_round_trip`: responses survive the wire.
-/
namespace InteractionKit

open Decoder Reader

/-! ## Modals -/

namespace ModalData

/-- every unset button style filled in -/
def withDefaultStyles (m : ModalData) : ModalData :=
  { m with components := m.components.map ModalComponent.withDefaultStyles }

/-- every button has a style -/
def Styled (m : ModalData) : Prop := ∀ c ∈ m.components, c.Styled

def Canonical (m : ModalData) : Prop := ∀ c ∈ m.components, c.Canonical

theorem withDefaultStyles_eq_self {m : ModalData} : m.withDefaultStyles = m ↔ m.Styled := by
  obtain ⟨customId, title, components⟩ := m
  simp [withDefaultStyles, Styled, map_eq_self, ModalComponent.withDefaultStyles_eq_self]

theorem encode_withDefaultStyles (m : ModalData) : m.withDefaultStyles.encode = m.encode := by
  simp only [encode, withDefaultStyles, ModalComponent.map_encode_withDefaultStyles]

theorem reads {m : ModalData} (h : m.Canonical) : decode.Reads m.encode m.withDefaultStyles :=
  ((undoes_field (text_inverts.reads m.customId)).map mk
    |>.seq (undoes_field (text_inverts.reads m.title))
    |>.seq (undoes_field (reads_list_map fun c hc => ModalComponent.field_reads (h c hc)))).decode (by decide)

theorem ensures_canonical : decode.Ensures Canonical := by
  refine Ensures.decode ?_
  refine .seq (.pass ?_) (ensures_required ModalComponent.field_ensures.list)
  exact .map (ensures_true _) fun _ _ _ _ h => h

theorem needs_customId : reader.Needs "custom_id" := ((needs_required.map mk).seq).seq

end ModalData

/-! ## Choices -/

namespace Choice

/-- the value as it is stored -/
def stored (c : Choice) : Choice := { c with value := c.value.canonical }

def Stored (c : Choice) : Prop := c.value.canonical = c.value

theorem stored_eq_self {c : Choice} : c.stored = c ↔ c.Stored := by
  obtain ⟨name, value⟩ := c
  simp [stored, Stored]

theorem reads (c : Choice) : decode.Reads c.encode c.stored :=
  ((undoes_field (text_inverts.reads c.name)).map mk |>.seq (undoes_field (raw_reads c.value))).decode (by decide)

theorem ensures_stored : decode.Ensures Stored := by
  have hraw : raw.Ensures fun v => v.canonical = v := by
    intro v w h
    cases h
    exact v.canonical_canonical
  refine Ensures.decode ?_
  exact .seq (.map (ensures_true _) fun _ _ _ h => h) (ensures_required hraw)

end Choice

namespace AutocompleteData

def stored (a : AutocompleteData) : AutocompleteData := ⟨a.choices.map Choice.stored⟩

def Stored (a : AutocompleteData) : Prop := ∀ c ∈ a.choices, c.Stored

theorem stored_eq_self {a : AutocompleteData} : a.stored = a ↔ a.Stored := by
  obtain ⟨choices⟩ := a
  simp [stored, Stored, map_eq_self, Choice.stored_eq_self]

theorem reads (a : AutocompleteData) : decode.Reads a.encode a.stored :=
  ((undoes_field (reads_list_map fun c _ => c.reads)).map mk).decode (by decide)

theorem ensures_stored : decode.Ensures Stored :=
  Ensures.decode (.map (ensures_required Choice.ensures_stored.list) fun _ h => h)

end AutocompleteData

/-! ## Messages -/

namespace MessageData

/-- every unset button style filled in -/
def withDefaultStyles (d : MessageData) : MessageData :=
  { d with components := d.components.map (List.map Component.withDefaultStyles) }

/-- every button has a style -/
def Styled (d : MessageData) : Prop := ∀ cs ∈ d.components, ∀ c ∈ cs, c.Styled

def Canonical (d : MessageData) : Prop := ∀ cs ∈ d.components, ∀ c ∈ cs, c.Canonical

theorem withDefaultStyles_eq_self {d : MessageData} : d.withDefaultStyles = d ↔ d.Styled := by
  obtain ⟨content, components, flags⟩ := d
  cases components with
  | none => simp [withDefaultStyles, Styled]
  | some cs => simp [withDefaultStyles, Styled, map_eq_self, Component.withDefaultStyles_eq_self]

theorem encode_withDefaultStyles (d : MessageData) : d.withDefaultStyles.encode = d.encode := by
  obtain ⟨content, components, flags⟩ := d
  cases components with
  | none => rfl
  | some cs =>
    simp only [encode, withDefaultStyles, Option.map_some, memberSome, encodeComponents,
      Component.map_encode_withDefaultStyles]

theorem reads {d : MessageData} (h : d.Canonical) : decode.Reads d.encode d.withDefaultStyles := by
  have hcomponents : ∀ cs ∈ d.components,
      (Decoder.list Component.field).Reads (encodeComponents cs) (cs.map Component.withDefaultStyles) :=
    fun cs hcs => reads_list_map fun c hc => Component.field_reads (h cs hcs c hc)
  exact ((undoes_optional text_inverts d.content).map mk
    |>.seq (undoes_optional_map hcomponents ⟨_, rfl⟩)
    |>.seq (undoes_optional MessageFlags.inverts d.flags)).decode (by decide)

theorem ensures_canonical : decode.Ensures Canonical := by
  refine Ensures.decode ?_
  refine .pass (.seq ?_ (ensures_optional Component.field_ensures.list))
  exact .map (ensures_true _) fun _ _ _ h _ => h

end MessageData

/-! ## Data -/

namespace ResponseData

def withDefaultStyles : ResponseData → ResponseData
  | .modal m => .modal m.withDefaultStyles
  | .autocomplete a => .autocomplete a
  | .message d => .message d.withDefaultStyles

/-- every button has a style -/
def Styled : ResponseData → Prop
  | .modal m => m.Styled
  | .autocomplete _ => True
  | .message d => d.Styled

/-- the values of choices as they are stored -/
def stored : ResponseData → ResponseData
  | .autocomplete a => .autocomplete a.stored
  | d => d

def Stored : ResponseData → Prop
  | .autocomplete a => a.Stored
  | _ => True

def Canonical : ResponseData → Prop
  | .modal m => m.Canonical
  | .autocomplete _ => True
  | .message d => d.Canonical

theorem stored_eq_self {d : ResponseData} : d.stored = d ↔ d.Stored := by
  cases d with
  | autocomplete a => simp [stored, Stored, AutocompleteData.stored_eq_self]
  | _ => simp [stored, Stored]

/-- a style has nothing to do with a stored value -/
theorem stored_withDefaultStyles (d : ResponseData) : d.withDefaultStyles.stored = d.stored.withDefaultStyles := by
  cases d <;> rfl

/-- nothing is left to fill in or to store just when every button has a style and every value is stored -/
theorem stored_withDefaultStyles_eq_self {d : ResponseData} : d.withDefaultStyles.stored = d ↔ d.Styled ∧ d.Stored := by
  cases d with
  | modal m => simp [withDefaultStyles, stored, Styled, Stored, ModalData.withDefaultStyles_eq_self]
  | autocomplete a => simp [withDefaultStyles, stored, Styled, Stored, AutocompleteData.stored_eq_self]
  | message d => simp [withDefaultStyles, stored, Styled, Stored, MessageData.withDefaultStyles_eq_self]

theorem form_stored_withDefaultStyles (d : ResponseData) : d.withDefaultStyles.stored.form = d.form := by
  cases d <;> rfl

theorem encode_withDefaultStyles (d : ResponseData) : d.withDefaultStyles.encode = d.encode := by
  cases d with
  | modal m => exact m.encode_withDefaultStyles
  | autocomplete a => rfl
  | message d => exact d.encode_withDefaultStyles

/-! ### No earlier form fits -/

theorem autocomplete_misfits (a : AutocompleteData) : ¬ ResponseForm.modal.Fits a.encode.canonical := by
  intro h
  obtain ⟨m, hm⟩ := takes_map.1 h
  exact ModalData.needs_customId.refuses_stored (Json.within_member "choices" _) (by decide) m hm

theorem message_misfits (d : MessageData) (f : ResponseForm) (hf : f ∈ ResponseForm.message.earlier) :
    ¬ f.Fits d.encode.canonical := by
  have hwithin := (Json.within_memberSome "content" Json.str d.content).append
    (Json.within_memberSome "components" MessageData.encodeComponents d.components) |>.append
    (Json.within_memberSome "flags" MessageFlags.encode d.flags)
  intro h
  cases f with
  | modal =>
    obtain ⟨m, hm⟩ := takes_map.1 h
    exact ModalData.needs_customId.refuses_stored hwithin (by decide) m hm
  | autocomplete =>
    obtain ⟨a, ha⟩ := takes_map.1 h
    exact AutocompleteData.needs_choices.refuses_stored hwithin (by decide) a ha
  | message => simp at hf

/-- data is read back in its own form -/
theorem reads {d : ResponseData} (h : d.Canonical) : decode.Reads d.encode d.withDefaultStyles.stored := by
  cases d with
  | modal m =>
    have hm : ResponseForm.modal.decode.Reads m.encode (.modal m.withDefaultStyles) :=
      (ModalData.reads h).map ResponseData.modal
    exact decode_of_form hm (by simp)
  | autocomplete a =>
    have ha : ResponseForm.autocomplete.decode.Reads a.encode (.autocomplete a.stored) :=
      a.reads.map ResponseData.autocomplete
    refine decode_of_form ha fun f hf => ?_
    obtain rfl : f = .modal := by simpa using hf
    exact autocomplete_misfits a
  | message d =>
    have hd : ResponseForm.message.decode.Reads d.encode (.message d.withDefaultStyles) :=
      (MessageData.reads h).map ResponseData.message
    exact decode_of_form hd (message_misfits d)

/-- data that is read is canonical and stored -/
theorem ensures : decode.Ensures fun d => d.Canonical ∧ d.Stored := by
  have hform (f : ResponseForm) : f.decode.Ensures fun d => d.Canonical ∧ d.Stored := by
    cases f with
    | modal => exact ModalData.ensures_canonical.map fun _ h => ⟨h, trivial⟩
    | autocomplete => exact AutocompleteData.ensures_stored.map fun _ h => ⟨trivial, h⟩
    | message => exact MessageData.ensures_canonical.map fun _ h => ⟨h, trivial⟩
  exact fun v d h => hform d.form (decode_eq_ok.1 h).1

end ResponseData

/-! ## Responses -/

theorem CallbackKind.inverts : CallbackKind.decode.Inverts CallbackKind.encode :=
  code_inverts fun k => by cases k <;> exact ⟨by decide, rfl⟩

namespace Response

/-- every unset button style filled in -/
def withDefaultStyles (r : Response) : Response := { r with data := r.data.map ResponseData.withDefaultStyles }

/-- every button has a style -/
def Styled (r : Response) : Prop := ∀ d ∈ r.data, d.Styled

/-- the values of choices as they are stored -/
def stored (r : Response) : Response := { r with data := r.data.map ResponseData.stored }

/-- the values of choices are those that a store can hold -/
def Stored (r : Response) : Prop := ∀ d ∈ r.data, d.Stored

/-- no channel kind of a menu hides a name behind its number -/
def Canonical (r : Response) : Prop := ∀ d ∈ r.data, d.Canonical

theorem stored_eq_self {r : Response} : r.stored = r ↔ r.Stored := by
  obtain ⟨kind, data⟩ := r
  cases data <;> simp [stored, Stored, ResponseData.stored_eq_self]

theorem stored_withDefaultStyles (r : Response) : r.withDefaultStyles.stored = r.stored.withDefaultStyles := by
  obtain ⟨kind, data⟩ := r
  cases data <;> simp [stored, withDefaultStyles, ResponseData.stored_withDefaultStyles]

theorem stored_withDefaultStyles_eq_self {r : Response} : r.withDefaultStyles.stored = r ↔ r.Styled ∧ r.Stored := by
  obtain ⟨kind, data⟩ := r
  cases data <;> simp [stored, withDefaultStyles, Styled, Stored, ResponseData.stored_withDefaultStyles_eq_self]

theorem form_stored_withDefaultStyles (r : Response) :
    r.withDefaultStyles.stored.data.map ResponseData.form = r.data.map ResponseData.form := by
  obtain ⟨kind, data⟩ := r
  cases data <;> simp [stored, withDefaultStyles, ResponseData.form_stored_withDefaultStyles]

theorem encode_withDefaultStyles (r : Response) : r.withDefaultStyles.encode = r.encode := by
  obtain ⟨kind, data⟩ := r
  cases data <;> simp [encode, withDefaultStyles, memberSome, ResponseData.encode_withDefaultStyles]

/-- a response written, stored and read -/
def relay (r : Response) : Except ReadError Response := decode r.encode.canonical

theorem relay_eq {r : Response} (h : r.Canonical) : r.relay = .ok r.withDefaultStyles.stored := by
  have hdata : (optional "data" ResponseData.decode).Undoes (memberSome "data" ResponseData.encode r.data)
      (r.data.map fun d => d.withDefaultStyles.stored) :=
    undoes_optional_map (fun d hd => ResponseData.reads (h d hd)) ⟨_, rfl⟩
  have hread : decode.Reads r.encode ⟨r.kind, r.data.map fun d => d.withDefaultStyles.stored⟩ :=
    ((undoes_field (CallbackKind.inverts.reads r.kind)).map mk |>.seq hdata).decode (by decide)
  obtain ⟨kind, data⟩ := r
  cases data <;> exact hread

theorem ensures : decode.Ensures fun r => r.Canonical ∧ r.Stored := by
  refine Ensures.decode (.seq ?_ (ensures_optional ResponseData.ensures))
  exact .map (ensures_true _) fun _ _ _ h => ⟨fun d hd => (h d hd).1, fun d hd => (h d hd).2⟩

end Response

/-! ## Main result -/

/-- **Responses survive the wire.** Every response, of any kind with data of any form, is read back with its unset
button styles filled in and the values of its choices as a store holds them, so with nothing changed but the styles
where the values are such already. It comes back as it was just when no style is unset as well. The data comes back in
the form it had. A response that was read is canonical and holds stored values only. -/
theorem response_round_trip :
    (∀ r : Response, r.Canonical →
      r.relay = .ok r.withDefaultStyles.stored ∧ (r.Stored → r.relay = .ok r.withDefaultStyles) ∧
      (r.relay = .ok r ↔ r.Styled ∧ r.Stored) ∧ r.withDefaultStyles.encode = r.encode ∧
      ∀ r', r.relay = .ok r' → r'.kind = r.kind ∧ r'.data.map ResponseData.form = r.data.map ResponseData.form) ∧
    ∀ (v : Json) (r : Response), Response.decode v = .ok r → r.Canonical ∧ r.Stored := by
  refine ⟨fun r h => ?_, fun v r h => Response.ensures h⟩
  have hrelay := Response.relay_eq h
  refine ⟨hrelay, fun hstored => ?_, ?_, r.encode_withDefaultStyles, fun r' hr' => ?_⟩
  · rw [hrelay, Response.stored_withDefaultStyles, Response.stored_eq_self.2 hstored]
  · rw [hrelay, Except.ok.injEq, Response.stored_withDefaultStyles_eq_self]
  · rw [hrelay] at hr'
    obtain rfl := Except.ok.inj hr'
    exact ⟨rfl, r.form_stored_withDefaultStyles⟩

/-- a modal with one button, over its style -/
def ask (style : Option ButtonStyle) : Response :=
  .modal "ask" "Ask" [.actionRow (.new [.button { Button.blank with style := style }])]

/-- choices for values that are no text and no number -/
def oddChoices : Response := .autocomplete [⟨"none", .null⟩, ⟨"pair", .obj [("a", .arr [.bool true]), ("b", .null)]⟩]

/-- a ping that is answered with a message with nothing set -/
def blankPong : Response := ⟨.pong, some (.message .blank)⟩

theorem response_round_trip_each_form :
    (ask none).relay = .ok (ask (some .primary)) ∧ (ask none).relay ≠ .ok (ask none) ∧
      oddChoices.relay = .ok oddChoices ∧ blankPong.relay = .ok blankPong ∧ blankPong.Stored := by
  have hask : (ask none).Canonical := by
    rintro d ⟨⟩
    exact List.forall_mem_singleton.2 ⟨trivial, trivial⟩
  have hodd : oddChoices.Canonical := by
    rintro d ⟨⟩
    trivial
  have hstored : oddChoices.Stored := by
    rintro d ⟨⟩
    exact List.forall_mem_cons.2 ⟨rfl, List.forall_mem_singleton.2 rfl⟩
  have hblank : blankPong.Canonical := by
    rintro d ⟨⟩
    nofun
  obtain ⟨hprimary, -, hself, -⟩ := response_round_trip.1 (ask none) hask
  have hpong : blankPong.relay = .ok blankPong := (response_round_trip.1 blankPong hblank).1
  refine ⟨hprimary, fun h => ?_, (response_round_trip.1 oddChoices hodd).2.1 hstored, hpong,
    (response_round_trip.2 _ blankPong hpong).2⟩
  -- its one button has no style
  exact ((hself.1 h).1 _ rfl _ List.mem_cons_self).1 rfl

end InteractionKit
