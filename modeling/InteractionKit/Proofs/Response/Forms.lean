import InteractionKit.Proofs.Json.Ensures
import InteractionKit.Proofs.Json.RoundTrip
import InteractionKit.Response
/-
The form of the data of a response.

A kind of response asks for a form of data. The kind is not looked at when the data is read: the data is read as the
first form that fits it, of a modal, choices and a message. So it has the form of the kind just when that form fits and
no form before it does. A message has no field that must be there, so a modal with a bad component is not refused as
long as messages may have its components.

- `CallbackKind.form`: the form that a kind asks for.
- `ResponseForm.Fits`: the data is read as the form, by itself.
- `ResponseData.decode_eq_ok`: data is read as the first form that fits.
- `Response.dataIn?`, `Response.data_of_decode`: where the data of a response is read from.
- `response_form_iff`: when the data has the form of the kind.
-/
namespace InteractionKit

open Decoder Reader

/-! ## Forms -/

inductive ResponseForm where
  | modal
  | autocomplete
  | message
deriving DecidableEq, Repr

def ResponseData.form : ResponseData → ResponseForm
  | .modal _ => .modal
  | .autocomplete _ => .autocomplete
  | .message _ => .message

/-- the form that a kind asks for -/
def CallbackKind.form : CallbackKind → ResponseForm
  | .modal => .modal
  | .autocomplete => .autocomplete
  | .pong | .message | .deferredMessage | .deferredUpdate | .updateMessage => .message

namespace ResponseForm

/-- data of the form, by itself -/
def decode : ResponseForm → Decoder ResponseData
  | .modal => .modal <$> ModalData.decode
  | .autocomplete => .autocomplete <$> AutocompleteData.decode
  | .message => .message <$> MessageData.decode

/-- the data is read as the form, by itself -/
def Fits (f : ResponseForm) (v : Json) : Prop := f.decode.Takes v

/-- the forms in the order in which they are tried -/
def order : List ResponseForm := [.modal, .autocomplete, .message]

/-- the forms that are tried before -/
def earlier (f : ResponseForm) : List ResponseForm := order.takeWhile fun g => g ≠ f

@[simp] theorem earlier_modal : modal.earlier = [] := rfl

@[simp] theorem earlier_autocomplete : autocomplete.earlier = [.modal] := rfl

@[simp] theorem earlier_message : message.earlier = [.modal, .autocomplete] := rfl

theorem mem_order (f : ResponseForm) : f ∈ order := by cases f <;> decide

theorem form_of_decode {f : ResponseForm} {v : Json} {d : ResponseData} (h : f.decode.ofValue v = .ok d) :
    d.form = f := by
  cases f with
  | modal | autocomplete | message =>
    obtain ⟨a, -, rfl⟩ := map_eq_ok h
    rfl

/-- the first of some forms that fits -/
def first (v : Json) : List ResponseForm → Except ReadError ResponseData
  | [] => .error (.noForm "InteractionResponseData")
  | f :: fs =>
    match f.decode.ofValue v with
    | .ok d => .ok d
    | .error _ => first v fs

theorem first_eq_ok {v : Json} {d : ResponseData} {fs : List ResponseForm} :
    first v fs = .ok d ↔
      d.form ∈ fs ∧ d.form.decode.ofValue v = .ok d ∧ ∀ g ∈ fs.takeWhile (fun g => g ≠ d.form), ¬ g.Fits v := by
  induction fs with
  | nil => simp [first]
  | cons f fs ih =>
    cases hf : f.decode.ofValue v with
    | ok e =>
      have hform := form_of_decode hf
      simp only [first, hf, Except.ok.injEq]
      constructor
      · rintro rfl
        simp [hform, hf]
      · rintro ⟨-, hd, hbefore⟩
        -- a form that fits is not among those before the first that does
        by_cases heq : f = d.form
        · rw [heq, hd] at hf
          exact (Except.ok.inj hf).symm
        · have hmem : f ∈ (f :: fs).takeWhile fun g => g ≠ d.form := by simp [heq]
          exact absurd ⟨e, hf⟩ (hbefore f hmem)
    | error e =>
      have hno : ¬ f.Fits v := not_takes hf
      simp only [first, hf, ih]
      by_cases heq : f = d.form
      · -- the form of the data is refused, so the data is not read on either side
        have hnot : d.form.decode.ofValue v ≠ .ok d := by
          intro hd
          rw [← heq] at hd
          exact hno ⟨d, hd⟩
        simp [hnot]
      · simp [heq, Ne.symm heq, hno]

theorem exists_first {v : Json} {fs : List ResponseForm} : (∃ d, first v fs = .ok d) ↔ ∃ f ∈ fs, f.Fits v := by
  induction fs with
  | nil => simp [first]
  | cons f fs ih =>
    cases hf : f.decode.ofValue v with
    | ok e =>
      have hfits : f.Fits v := ⟨e, hf⟩
      simp [first, hf, hfits]
    | error e =>
      have hno : ¬ f.Fits v := not_takes hf
      simp [first, hf, hno, ih]

end ResponseForm

namespace ResponseData

theorem decode_eq_first (v : Json) : decode.ofValue v = ResponseForm.first v ResponseForm.order := by
  simp only [decode, ofValue_whole, ResponseForm.first, ResponseForm.order, ResponseForm.decode, ofValue_map]
  cases ModalData.decode.ofValue v with
  | ok m => rfl
  | error _ =>
    cases AutocompleteData.decode.ofValue v with
    | ok a => rfl
    | error _ => cases MessageData.decode.ofValue v <;> rfl

/-- data is read as the first form that fits -/
theorem decode_eq_ok {v : Json} {d : ResponseData} :
    decode.ofValue v = .ok d ↔ d.form.decode.ofValue v = .ok d ∧ ∀ f ∈ d.form.earlier, ¬ f.Fits v := by
  rw [decode_eq_first, ResponseForm.first_eq_ok, and_iff_right d.form.mem_order]; rfl

theorem decode_of_form {f : ResponseForm} {v : Json} {d : ResponseData} (hd : f.decode.ofValue v = .ok d)
    (hearlier : ∀ g ∈ f.earlier, ¬ g.Fits v) : decode.ofValue v = .ok d := by
  obtain rfl := ResponseForm.form_of_decode hd
  exact decode_eq_ok.2 ⟨hd, hearlier⟩

theorem takes_iff {v : Json} : decode.Takes v ↔ ∃ f : ResponseForm, f.Fits v := by
  unfold Takes
  simp only [decode_eq_first, ResponseForm.exists_first, ResponseForm.mem_order, true_and]

/-- the data that is read has a form just when the form is the first that fits -/
theorem form_eq_iff {v : Json} {d : ResponseData} (h : decode.ofValue v = .ok d) (f : ResponseForm) :
    d.form = f ↔ f.Fits v ∧ ∀ g ∈ f.earlier, ¬ g.Fits v := by
  constructor
  · rintro rfl
    obtain ⟨hread, hearlier⟩ := decode_eq_ok.1 h
    exact ⟨⟨d, hread⟩, hearlier⟩
  · rintro ⟨⟨e, he⟩, hearlier⟩
    have hread : decode.ofValue v = .ok e := decode_of_form he hearlier
    rw [h] at hread
    rw [Except.ok.inj hread, ResponseForm.form_of_decode he]

end ResponseData

/-! ## Responses -/

namespace Response

/-- what stands for the data of a response, unless it is `null` -/
def dataIn? (v : Json) : Option Json := (v.fieldAt? "data" 1).filter fun w => w ≠ .null

/-- the data of a response is read from what stands for it, whatever the kind -/
theorem data_of_decode {v : Json} {r : Response} (h : decode.ofValue v = .ok r) :
    Option.Rel (fun w d => ResponseData.decode.ofValue w = .ok d) (dataIn? v) r.data := by
  obtain ⟨row, rfl, hrow⟩ := Reader.decode_eq_ok h
  obtain ⟨f, data, hf, hdata, rfl⟩ := seq_eq_done hrow
  obtain ⟨kind, -, rfl⟩ := map_eq_done hf
  unfold dataIn?
  rcases field_eq_done hdata with ⟨w, hw, hread⟩ | ⟨hnone, hgap⟩
  · have hw : row.toJson.fieldAt? "data" 1 = some w := hw
    rw [hw]
    rcases nullable_eq_ok hread with ⟨rfl, rfl⟩ | ⟨hnull, d, hd, rfl⟩
    · exact .none
    · rw [Option.filter_some_pos (by simpa using hnull)]
      exact .some hd
  · have hnone : row.toJson.fieldAt? "data" 1 = none := hnone
    have hdata : data = none := by
      cases row <;> exact (Option.some.inj hgap).symm
    rw [hnone, hdata]
    exact .none

/-- the data of a response has a form just when the form is the first that fits what stands for it -/
theorem form_eq_iff {v : Json} {r : Response} (h : decode.ofValue v = .ok r) (f : ResponseForm) :
    (∀ d ∈ r.data, d.form = f) ↔ ∀ w ∈ dataIn? v, f.Fits w ∧ ∀ g ∈ f.earlier, ¬ g.Fits w := by
  have hdata := data_of_decode h
  revert hdata
  generalize dataIn? v = o
  generalize r.data = o'
  rintro (hd | -)
  · simpa using ResponseData.form_eq_iff hd f
  · simp

/-- the members of a response of a kind around its data -/
def members (k : CallbackKind) (w : Json) : Members := member "type" k.encode ++ member "data" w

theorem decode_members (k : CallbackKind) {w : Json} (hw : w ≠ .null) :
    decode.ofValue (.obj (members k w)) = (ResponseData.decode.ofValue w).map fun d => ⟨k, some d⟩ := by
  have hk : CallbackKind.decode.ofValue k.encode = .ok k := by cases k <;> rfl
  have hkind : (required "type" CallbackKind.decode).ofValues (.named (members k w)) 0 = .done k := by
    refine (field_of_find rfl rfl 0).trans ?_
    rw [hk]; rfl
  have hdata : (optional "data" ResponseData.decode).ofValues (.named (members k w)) 1 =
      .at_ 1 ((ResponseData.decode.ofValue w).map some) := by
    refine (field_of_find rfl rfl 1).trans ?_
    rw [nullable_of_ne_null hw]; rfl
  have hread : decode.ofValue (.obj (members k w)) =
      ((((required "type" CallbackKind.decode).ofValues (.named (members k w)) 0).map mk).ap
        ((optional "data" ResponseData.decode).ofValues (.named (members k w)) 1)).result := rfl
  rw [hread, hkind, hdata]
  cases ResponseData.decode.ofValue w <;> rfl

theorem takes_members (k : CallbackKind) {w : Json} (hw : w ≠ .null) :
    decode.Takes (.obj (members k w)) ↔ ∃ f : ResponseForm, f.Fits w :=
  (takes_of_eq_map (decode_members k hw)).trans ResponseData.takes_iff

end Response

/-! ## Modals -/

namespace ModalData

/-- the members of a modal around the values for its components -/
def fields (customId title : String) (vs : List Json) : Members :=
  member "custom_id" (.str customId) ++ member "title" (.str title) ++ member "components" (.arr vs)

variable (customId title : String) (vs : List Json)

theorem find_components : Json.find "components" (fields customId title vs) = some (.arr vs, []) := rfl

theorem decode_fields : decode.ofValue (.obj (fields customId title vs)) =
    ((Decoder.list ModalComponent.field).ofValue (.arr vs)).map (mk customId title) := by
  have hcomponents : (required "components" (Decoder.list ModalComponent.field)).ofValues
      (.named (fields customId title vs)) 2 = .at_ 1 ((Decoder.list ModalComponent.field).ofValue (.arr vs)) :=
    field_of_find (find_components customId title vs) rfl 2
  have hread : decode.ofValue (.obj (fields customId title vs)) = ((Reading.done (mk customId title)).ap
      ((required "components" (Decoder.list ModalComponent.field)).ofValues
        (.named (fields customId title vs)) 2)).result := rfl
  rw [hread, hcomponents]
  cases (Decoder.list ModalComponent.field).ofValue (.arr vs) <;> rfl

/-- the components of a modal stand where a message has its own -/
theorem decode_fields_message : MessageData.decode.ofValue (.obj (fields customId title vs)) =
    ((Decoder.list Component.field).ofValue (.arr vs)).map fun cs => ⟨none, some cs, none⟩ := by
  have hcomponents : (optional "components" (Decoder.list Component.field)).ofValues
      (.named (fields customId title vs)) 1 = .at_ 1 (((Decoder.list Component.field).ofValue (.arr vs)).map some) :=
    field_of_find (find_components customId title vs) rfl 1
  have hread : MessageData.decode.ofValue (.obj (fields customId title vs)) =
      (((Reading.done (MessageData.mk none)).ap
        ((optional "components" (Decoder.list Component.field)).ofValues
          (.named (fields customId title vs)) 1)).ap (.done none)).result := rfl
  rw [hread, hcomponents]
  cases (Decoder.list Component.field).ofValue (.arr vs) <;> rfl

end ModalData

theorem AutocompleteData.needs_choices : reader.Needs "choices" := needs_required.map _

namespace ResponseForm

variable (customId title : String) (vs : List Json)

theorem modal_fits_fields :
    modal.Fits (.obj (ModalData.fields customId title vs)) ↔ ∀ v ∈ vs, ModalComponent.field.Takes v := by
  rw [← takes_list]
  exact takes_map.trans (takes_of_eq_map (ModalData.decode_fields customId title vs))

theorem message_fits_fields :
    message.Fits (.obj (ModalData.fields customId title vs)) ↔ ∀ v ∈ vs, Component.field.Takes v := by
  rw [← takes_list]
  exact takes_map.trans (takes_of_eq_map (ModalData.decode_fields_message customId title vs))

theorem autocomplete_misfits_fields : ¬ autocomplete.Fits (.obj (ModalData.fields customId title vs)) := by
  intro h
  obtain ⟨a, ha⟩ := takes_map.1 h
  have hget : Json.get? "choices" (.obj (ModalData.fields customId title vs)) = none := rfl
  exact AutocompleteData.needs_choices.refuses hget a ha

theorem exists_fits_fields :
    (∃ f : ResponseForm, f.Fits (.obj (ModalData.fields customId title vs))) ↔
      (∀ v ∈ vs, ModalComponent.field.Takes v) ∨ ∀ v ∈ vs, Component.field.Takes v := by
  rw [← modal_fits_fields customId title, ← message_fits_fields customId title]
  constructor
  · rintro ⟨f, hf⟩
    cases f with
    | modal => exact .inl hf
    | message => exact .inr hf
    | autocomplete => exact absurd hf (autocomplete_misfits_fields customId title vs)
  · rintro (h | h)
    · exact ⟨_, h⟩
    · exact ⟨_, h⟩

end ResponseForm

/-! ## Main result -/

/-- **The form of the data.** The data of a response that was read has the form of the kind just when that form fits
what stands for the data and no form that is tried before it does. The kind has no say in what is read: with any kind,
the members of a modal are refused only when some of the components fit no modal and some fit no message, and are read
as a modal just when all of them fit one. -/
theorem response_form_iff (v : Json) (k : CallbackKind) (customId title : String) (vs : List Json) :
    (∀ r, Response.decode v = .ok r →
      ((∀ d ∈ r.data, d.form = r.kind.form) ↔
        ∀ w ∈ Response.dataIn? v, r.kind.form.Fits w ∧ ∀ f ∈ r.kind.form.earlier, ¬ f.Fits w)) ∧
    (Response.decode.Takes (.obj (Response.members k (.obj (ModalData.fields customId title vs)))) ↔
      (∀ c ∈ vs, ModalComponent.field.Takes c) ∨ ∀ c ∈ vs, Component.field.Takes c) ∧
    ∀ r, Response.decode (.obj (Response.members k (.obj (ModalData.fields customId title vs)))) = .ok r →
      ((∀ d ∈ r.data, d.form = .modal) ↔ ∀ c ∈ vs, ModalComponent.field.Takes c) := by
  refine ⟨fun r h => Response.form_eq_iff h _, ?_, fun r h => ?_⟩
  · have hne : Json.obj (ModalData.fields customId title vs) ≠ .null := nofun
    rw [Response.takes_members k hne]
    exact ResponseForm.exists_fits_fields customId title vs
  · have hin : Response.dataIn? (.obj (Response.members k (.obj (ModalData.fields customId title vs)))) =
        some (.obj (ModalData.fields customId title vs)) := rfl
    rw [Response.form_eq_iff h, hin, ← ResponseForm.modal_fits_fields customId title]
    simp

/-- a text, which modals and messages may have -/
def greeting : Json := .obj [("type", .int 10), ("content", .str "hello")]

/-- a button, which only messages may have -/
def sendButton : Json :=
  .obj [("type", .int 2), ("custom_id", .str "send"), ("label", .str "Send"), ("style", .int 1)]

/-- the modal of one component -/
def reportModal (component : Json) : Json :=
  .obj (Response.members .modal (.obj (ModalData.fields "report" "Report" [component])))

theorem response_form_iff_greeting :
    ∃ r, Response.decode (reportModal greeting) = .ok r ∧ (∀ d ∈ r.data, d.form = r.kind.form) ∧
      ResponseForm.modal.Fits (.obj (ModalData.fields "report" "Report" [greeting])) ∧
      ∀ c ∈ [greeting], ModalComponent.field.Takes c := by
  have hread : Response.decode (reportModal greeting) =
      .ok (.modal "report" "Report" [.textDisplay (.new "hello")]) := rfl
  have hform : ∀ d ∈ (Response.modal "report" "Report" [.textDisplay (.new "hello")]).data, d.form = .modal := by
    rintro d ⟨⟩
    rfl
  obtain ⟨hfits, -, hcomponents⟩ := response_form_iff (reportModal greeting) .modal "report" "Report" [greeting]
  exact ⟨_, hread, hform, ((hfits _ hread).1 hform _ rfl).1, (hcomponents _ hread).1 hform⟩

/-- a response that opens a modal, with a message for its data -/
def misread : Response :=
  ⟨.modal, some (.message (MessageData.blank.addComponent (.button
    { Button.new .primary "send" with label := some "Send" })))⟩

/-- A modal with a component that no modal may have is read as a message of the component. -/
theorem modal_read_as_message :
    Response.decode (reportModal sendButton) = .ok misread ∧ ¬ ModalComponent.field.Takes sendButton ∧
    ¬ ∀ (v : Json) (r : Response), Response.decode v = .ok r →
      ∀ d ∈ r.data, (d.form = .modal ↔ r.kind = .modal) := by
  have hread : Response.decode (reportModal sendButton) = .ok misread := rfl
  refine ⟨hread, fun ⟨c, hc⟩ => ?_, fun h => ?_⟩
  · cases hc
  · have hform := (h _ _ hread _ rfl).2 rfl
    cases hform

end InteractionKit
