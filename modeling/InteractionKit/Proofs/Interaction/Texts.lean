import InteractionKit.Proofs.Component.ReadBack
import InteractionKit.Proofs.Interaction.Data
/-
The texts of a submitted modal.

A submission is walked once, and each filled input puts its text behind those that were found before. What comes out is
told by the inputs alone: those that stand in the submission, in order, the filled ones among them with their texts. A
label has the inputs of what it labels, and a row has those that stand in it directly. The text under an id is that of
the first filled input with the id; one that was left blank hides nothing.

- `Submission.inputs`: the text inputs of a submission, in order. `TextInput.entry?`: the id and the text of one.
- `ModalComponent.collect_eq`: the walk through a component adds the entries of its inputs, and nothing else.
- `Submission.value?_eq_findSome?`: the text under an id, by the inputs.
- `Submission.relay_eq`: a submission comes back from the wire touched up, which shows in none of its inputs.
- `submitted_texts`: the texts, the text under an id, and both behind the wire.
-/
namespace InteractionKit

/-! ## Inputs -/

/-- the id of an input with its text, if it has one -/
def TextInput.entry? (t : TextInput) : Option (String × String) := t.value.map fun v => (t.customId, v)

/-- a component of a message as a text input -/
def Component.input? : Component → Option TextInput
  | .textInput t => some t
  | _ => none

/-- the text inputs in a component of a modal: itself, those of what it labels, or those directly in a row -/
def ModalComponent.inputs : ModalComponent → List TextInput
  | .textInput t => [t]
  | .label ⟨_, _, _, x⟩ => inputs x
  | .actionRow row => row.components.filterMap Component.input?
  | _ => []

def Submission.inputs (s : Submission) : List TextInput := s.components.flatMap ModalComponent.inputs

/-! ## The walk -/

theorem TextInput.collect_eq (seen : List (String × String)) (t : TextInput) :
    t.collect seen = seen ++ t.entry?.toList := by
  unfold collect entry?
  cases t.value <;> simp

theorem Component.collect_eq (seen : List (String × String)) (c : Component) :
    c.collect seen = seen ++ (c.input?.bind TextInput.entry?).toList := by
  cases c with
  | textInput t => exact t.collect_eq seen
  | _ => exact (List.append_nil seen).symm

theorem Component.foldl_collect (xs : List Component) (seen : List (String × String)) :
    xs.foldl collect seen = seen ++ (xs.filterMap input?).filterMap TextInput.entry? := by
  have hcollect : collect = fun seen c => seen ++ (c.input?.bind TextInput.entry?).toList := funext₂ collect_eq
  rw [hcollect, List.foldl_append_eq_append, ← List.flatMap_def, List.filterMap_filterMap,
    List.filterMap_eq_flatMap_toList]

/-- the walk through a component adds the entries of its inputs, and nothing else -/
theorem ModalComponent.collect_eq : (c : ModalComponent) → (seen : List (String × String)) →
    c.collect seen = seen ++ c.inputs.filterMap TextInput.entry?
  | .textInput t, seen => by
    rw [collect, inputs, t.collect_eq, List.filterMap_cons, List.filterMap_nil]
    cases t.entry? <;> rfl
  | .label ⟨_, _, _, x⟩, seen => by rw [collect, inputs, collect_eq x]
  | .actionRow row, seen => Component.foldl_collect row.components seen
  | .selectMenu _, seen | .textDisplay _, seen | .fileUpload _, seen => (List.append_nil seen).symm

namespace Submission

variable {s : Submission} {id v : String}

theorem textValues_eq (s : Submission) :
    s.textValues = s.components.flatMap fun c => c.inputs.filterMap TextInput.entry? := by
  have hcollect : ModalComponent.collect = fun seen c => seen ++ c.inputs.filterMap TextInput.entry? :=
    funext₂ fun seen c => c.collect_eq seen
  rw [textValues, hcollect, List.foldl_append_eq_append, ← List.flatMap_def, List.nil_append]

/-- the texts are the entries of the inputs -/
theorem textValues_eq_filterMap (s : Submission) : s.textValues = s.inputs.filterMap TextInput.entry? := by
  rw [textValues_eq, inputs, List.filterMap_flatMap]

/-! ## The text under an id -/

theorem value?_eq_some_iff : s.value? id = some v ↔
    ∃ before after, s.textValues = before ++ (id, v) :: after ∧ ∀ p ∈ before, p.1 ≠ id := by
  unfold value?
  rw [Option.map_eq_some_iff]
  simp only [List.find?_eq_some_iff_append]
  constructor
  · rintro ⟨⟨i, w⟩, ⟨hid, before, after, hsplit, hbefore⟩, hv⟩
    obtain rfl : i = id := of_decide_eq_true hid
    obtain rfl : w = v := hv
    exact ⟨before, after, hsplit, fun p hp => by simpa using hbefore p hp⟩
  · rintro ⟨before, after, hsplit, hbefore⟩
    exact ⟨(id, v), ⟨by simp, before, after, hsplit, fun p hp => by simpa using hbefore p hp⟩, rfl⟩

theorem value?_eq_none_iff : s.value? id = none ↔ ∀ p ∈ s.textValues, p.1 ≠ id := by
  unfold value?
  rw [Option.map_eq_none_iff, List.find?_eq_none]
  simp

end Submission

/-- the text of an input, if the input has the id -/
def TextInput.under? (id : String) (t : TextInput) : Option String := if t.customId = id then t.value else none

theorem TextInput.under?_eq_some_iff {t : TextInput} {id v : String} :
    t.under? id = some v ↔ t.customId = id ∧ t.value = some v := by
  simp [under?]

theorem TextInput.under?_eq_none_iff {t : TextInput} {id : String} :
    t.under? id = none ↔ (t.customId = id → t.value = none) := by
  simp [under?]

namespace Submission

variable {s : Submission} {id v : String}

/-- the text under an id is the first that an input has under it -/
theorem value?_eq_findSome? (s : Submission) (id : String) :
    s.value? id = s.inputs.findSome? (TextInput.under? id) := by
  rw [value?, textValues_eq_filterMap]
  induction s.inputs with
  | nil => rfl
  | cons t ts ih =>
    rw [List.findSome?_cons, ← ih, List.filterMap_cons]
    obtain ⟨_, customId, _, _, _, _, _, _, value⟩ := t
    cases value with
    | none => simp [TextInput.entry?, TextInput.under?]
    | some w =>
      by_cases hid : customId = id
      · simp [TextInput.entry?, TextInput.under?, hid]
      · simp [TextInput.entry?, TextInput.under?, hid]

/-- an input that was left blank does not hide a later one -/
theorem value?_eq_some_iff_inputs : s.value? id = some v ↔ ∃ before t after, s.inputs = before ++ t :: after ∧
    t.customId = id ∧ t.value = some v ∧ ∀ u ∈ before, u.customId = id → u.value = none := by
  rw [value?_eq_findSome?, List.findSome?_eq_some_iff]
  simp only [TextInput.under?_eq_some_iff, TextInput.under?_eq_none_iff, and_assoc]

/-! ## Through the wire -/

/-- a submission with its buttons and menus touched up -/
def retouch (t : Touch) (s : Submission) : Submission :=
  { s with components := s.components.map (ModalComponent.retouch t) }

/-- a submission written, stored and read -/
def relay (s : Submission) : Except ReadError Submission := decode.ofValue s.encode.canonical

theorem encode_retouch {t : Touch} (h : t.Silent) (s : Submission) : (s.retouch t).encode = s.encode := by
  have hcomponents : ModalComponent.encode ∘ ModalComponent.retouch t = ModalComponent.encode :=
    funext (ModalComponent.encode_retouch h)
  simp only [encode, retouch, List.map_map, hcomponents]

/-- every submission comes back, touched up -/
theorem relay_eq (s : Submission) : s.relay = .ok (s.retouch .readBack) := by
  have hcanonical : (s.retouch .plainKinds).Canonical := by
    intro c hc
    obtain ⟨c', -, rfl⟩ := List.mem_map.1 hc
    exact ModalComponent.canonical_retouch SelectMenu.plain_canonical c'
  have hread : (s.retouch .plainKinds).relay = .ok (s.retouch .plainKinds).withDefaultStyles := reads hcanonical
  rw [relay, encode_retouch Touch.silent_plainKinds] at hread
  rw [relay, hread]
  simp [withDefaultStyles, retouch, ModalComponent.withDefaultStyles_retouch, Touch.readBack]

end Submission

theorem Component.input?_retouch (t : Touch) (c : Component) : (c.retouch t).input? = c.input? := by
  cases c <;> rfl

theorem ModalComponent.inputs_retouch (t : Touch) : (c : ModalComponent) → (c.retouch t).inputs = c.inputs
  | .actionRow row => by
    have hinput : Component.input? ∘ Component.retouch t = Component.input? := funext (Component.input?_retouch t)
    simp only [retouch, inputs, Component.retouchAll_eq_map, List.filterMap_map, hinput]
  | .label ⟨_, _, _, x⟩ => by rw [retouch, inputs, inputs, inputs_retouch t x]
  | .textInput _ | .selectMenu _ | .textDisplay _ | .fileUpload _ => rfl

theorem Submission.inputs_retouch (t : Touch) (s : Submission) : (s.retouch t).inputs = s.inputs := by
  simp only [inputs, retouch, List.flatMap_map, ModalComponent.inputs_retouch]

/-! ## Main result -/

/-- **Submitted texts.** The texts of a submission are, component by component, the entries of the filled inputs in it.
The text under an id is the first of them with the id, so it is that of the first input with the id that is not blank;
there is none just if no text has the id. Written, stored and read, a submission has the same texts. -/
theorem submitted_texts (s : Submission) :
    (s.textValues = s.components.flatMap fun c => c.inputs.filterMap TextInput.entry?) ∧
    (∀ id v, s.value? id = some v ↔
      ∃ before after, s.textValues = before ++ (id, v) :: after ∧ ∀ p ∈ before, p.1 ≠ id) ∧
    (∀ id, s.value? id = none ↔ ∀ p ∈ s.textValues, p.1 ≠ id) ∧
    (∀ id v, s.value? id = some v ↔ ∃ before t after, s.inputs = before ++ t :: after ∧
      t.customId = id ∧ t.value = some v ∧ ∀ u ∈ before, u.customId = id → u.value = none) ∧
    ∃ s', s.relay = .ok s' ∧ s'.textValues = s.textValues ∧ ∀ id, s'.value? id = s.value? id := by
  have htexts : (s.retouch .readBack).textValues = s.textValues := by
    rw [Submission.textValues_eq_filterMap, Submission.textValues_eq_filterMap, Submission.inputs_retouch]
  refine ⟨s.textValues_eq, fun _ _ => Submission.value?_eq_some_iff, fun _ => Submission.value?_eq_none_iff,
    fun _ _ => Submission.value?_eq_some_iff_inputs, s.retouch .readBack, s.relay_eq, htexts, fun id => ?_⟩
  rw [Submission.value?, Submission.value?, htexts]

/-- a blank input in a row, and a filled one with the same id below two labels -/
def asked : Submission :=
  ⟨"asked",
    [.actionRow (.new [.textInput (.new "why" .short), .button .blank]),
      .label (.new "Why"
        (.label (.new "Tell" (.textInput { TextInput.new "why" .paragraph with value := some "so" }))))]⟩

example : asked.textValues = [("why", "so")] ∧ asked.value? "why" = some "so" ∧ asked.value? "what" = none := by decide

end InteractionKit
