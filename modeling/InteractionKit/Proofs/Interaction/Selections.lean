import InteractionKit.Interaction.Submission
/-
The selections of a submitted modal.

Menus and uploads send the values that were chosen. They stand among the components of a submission, below labels,
and, menus only, directly in rows; texts are found in all of these places. The values under an id are looked for
everywhere but in rows. So a selection in a row is never the answer: the first selection with the id is passed over when
it stands in a row, for the first that does not, or for none at all.

- `Submission.selections`: the menus and uploads of a submission, in the order of the document, each with whether it
  stands in a row.
- `Submission.selection?`, `Submission.openSelection?`: the first selection with an id, and the first outside of rows.
- `Submission.selected?_eq`: the values that are found are those of the first selection outside of rows.
- `selected_first_iff`: when they are those of the first selection.
- `selected_row_missed`: a menu in a row, which is not found.
-/
namespace InteractionKit

/-! ## Selections -/

/-- what a menu or an upload sends -/
structure Selection where
  customId : String
  values : List String
  inRow : Bool
deriving DecidableEq

/-- what a component sends that stands in a row -/
def Component.selection? : Component → Option Selection
  | .selectMenu m => some ⟨m.customId, m.values, true⟩
  | _ => none

/-- the selections in a component of a modal: itself, those of what it labels, or those directly in a row -/
def ModalComponent.selections : ModalComponent → List Selection
  | .selectMenu m => [⟨m.customId, m.values, false⟩]
  | .fileUpload f => [⟨f.customId, f.values, false⟩]
  | .label ⟨_, _, _, x⟩ => selections x
  | .actionRow row => row.components.filterMap Component.selection?
  | _ => []

namespace Selection

/-- the selection has the id -/
def named (id : String) (c : Selection) : Bool := c.customId = id

/-- the selection has the id, and stands outside of rows -/
def openlyNamed (id : String) (c : Selection) : Bool := c.named id && !c.inRow

variable {id : String} {c : Selection}

theorem openlyNamed_iff : c.openlyNamed id = true ↔ c.customId = id ∧ c.inRow = false := by
  simp [openlyNamed, named]

theorem not_openlyNamed_iff : (!c.openlyNamed id) = true ↔ (c.customId = id → c.inRow = true) := by
  simp [openlyNamed, named, Decidable.imp_iff_not_or]

end Selection

namespace Submission

def selections (s : Submission) : List Selection := s.components.flatMap ModalComponent.selections

/-- the first selection with an id -/
def selection? (s : Submission) (id : String) : Option Selection := s.selections.find? (Selection.named id)

/-- the first selection with an id outside of rows -/
def openSelection? (s : Submission) (id : String) : Option Selection :=
  s.selections.find? (Selection.openlyNamed id)

end Submission

/-! ## What is found -/

theorem Component.inRow_of_selection? {c : Component} {a : Selection} (h : c.selection? = some a) : a.inRow = true := by
  cases c with
  | selectMenu m =>
    cases h
    rfl
  | _ => cases h

/-- no selection in a row stands outside of rows -/
theorem ModalComponent.find?_row (row : ActionRow Component) (id : String) :
    (ModalComponent.actionRow row).selections.find? (Selection.openlyNamed id) = none := by
  rw [List.find?_eq_none]
  intro a ha
  obtain ⟨c, -, hc⟩ := List.mem_filterMap.1 ha
  rw [Selection.openlyNamed_iff, Component.inRow_of_selection? hc]
  simp

theorem ModalComponent.selected?_eq (id : String) : (c : ModalComponent) →
    c.selected? id = (c.selections.find? (Selection.openlyNamed id)).map Selection.values
  | .selectMenu m => by
    by_cases h : m.customId = id
    · simp [selected?, selections, Selection.openlyNamed, Selection.named, h]
    · simp [selected?, selections, Selection.openlyNamed, Selection.named, h]
  | .fileUpload f => by
    by_cases h : f.customId = id
    · simp [selected?, selections, Selection.openlyNamed, Selection.named, h]
    · simp [selected?, selections, Selection.openlyNamed, Selection.named, h]
  | .label ⟨_, _, _, x⟩ => by rw [selected?, selections, selected?_eq id x]
  | .actionRow row => by
    rw [find?_row]
    rfl
  | .textInput _ | .textDisplay _ => rfl

namespace Submission

variable {s : Submission} {id : String}

/-- the values that are found are those of the first selection outside of rows -/
theorem selected?_eq (s : Submission) (id : String) : s.selected? id = (s.openSelection? id).map Selection.values := by
  have hparts : ModalComponent.selected? id =
      Option.map Selection.values ∘ fun c : ModalComponent => c.selections.find? (Selection.openlyNamed id) :=
    funext (ModalComponent.selected?_eq id)
  rw [selected?, openSelection?, selections, List.find?_flatMap, List.map_findSome?, hparts]

theorem openSelection?_eq_some_iff {c : Selection} : s.openSelection? id = some c ↔ ∃ before after,
    s.selections = before ++ c :: after ∧ (c.customId = id ∧ c.inRow = false) ∧
      ∀ b ∈ before, b.customId = id → b.inRow = true := by
  rw [openSelection?, List.find?_eq_some_iff_append, Selection.openlyNamed_iff]
  simp only [Selection.not_openlyNamed_iff]
  constructor
  · rintro ⟨hopen, before, after, hsplit, hbefore⟩
    exact ⟨before, after, hsplit, hopen, hbefore⟩
  · rintro ⟨before, after, hsplit, hopen, hbefore⟩
    exact ⟨hopen, before, after, hsplit, hbefore⟩

theorem openSelection?_eq_none_iff :
    s.openSelection? id = none ↔ ∀ c ∈ s.selections, c.customId = id → c.inRow = true := by
  simp only [openSelection?, List.find?_eq_none, ← Selection.not_openlyNamed_iff, Bool.not_eq_true',
    Bool.not_eq_true]

/-- the first selection is the first outside of rows, if it stands there -/
theorem openSelection?_of_selection? {c : Selection} (h : s.selection? id = some c) (hrow : c.inRow = false) :
    s.openSelection? id = some c := by
  obtain ⟨hid, before, after, hsplit, hbefore⟩ := List.find?_eq_some_iff_append.1 h
  refine openSelection?_eq_some_iff.2 ⟨before, after, hsplit, ⟨of_decide_eq_true hid, hrow⟩, fun b hb hname => ?_⟩
  have hother := hbefore b hb
  simp [Selection.named, hname] at hother

theorem openSelection?_of_selection?_eq_none (h : s.selection? id = none) : s.openSelection? id = none := by
  refine openSelection?_eq_none_iff.2 fun c hc hname => ?_
  exact absurd (decide_eq_true hname) (List.find?_eq_none.1 h c hc)

end Submission

/-! ## Main result -/

/-- **What is selected.** The values under an id are those of the first selection with the id outside of rows, and there
are none just if every selection with the id stands in a row. They are those of the first selection with the id,
wherever it stands, just if that one does not stand in a row or the first outside of rows has the same values. -/
theorem selected_first_iff (s : Submission) (id : String) :
    (∀ vs, s.selected? id = some vs ↔ ∃ before c after, s.selections = before ++ c :: after ∧
      (c.customId = id ∧ c.inRow = false ∧ c.values = vs) ∧ ∀ b ∈ before, b.customId = id → b.inRow = true) ∧
    (s.selected? id = none ↔ ∀ c ∈ s.selections, c.customId = id → c.inRow = true) ∧
    (s.selected? id = (s.selection? id).map Selection.values ↔ ∀ c, s.selection? id = some c → c.inRow = true →
      ∃ d, s.openSelection? id = some d ∧ d.values = c.values) := by
  rw [s.selected?_eq id]
  refine ⟨fun vs => ?_, ?_, ?_⟩
  · rw [Option.map_eq_some_iff]
    simp only [Submission.openSelection?_eq_some_iff]
    constructor
    · rintro ⟨c, ⟨before, after, hsplit, ⟨hid, hrow⟩, hbefore⟩, hvalues⟩
      exact ⟨before, c, after, hsplit, ⟨hid, hrow, hvalues⟩, hbefore⟩
    · rintro ⟨before, c, after, hsplit, ⟨hid, hrow, hvalues⟩, hbefore⟩
      exact ⟨c, ⟨before, after, hsplit, ⟨hid, hrow⟩, hbefore⟩, hvalues⟩
  · rw [Option.map_eq_none_iff]
    exact Submission.openSelection?_eq_none_iff
  · cases hfirst : s.selection? id with
    | none => simp [Submission.openSelection?_of_selection?_eq_none hfirst]
    | some c =>
      cases hrow : c.inRow with
      | false => simp [Submission.openSelection?_of_selection? hfirst hrow, hrow]
      | true => simp [Option.map_eq_some_iff, hrow]

/-! ## A menu in a row -/

/-- a submission with a menu in a row, as it is sent -/
def paintJson : Json :=
  .obj [("components", .arr [.obj [
      ("components", .arr [.obj [("custom_id", .str "colour"), ("type", .int 3), ("values", .arr [.str "red"])]]),
      ("type", .int 1)]]),
    ("custom_id", .str "paint")]

def paint : Submission :=
  ⟨"paint", [.actionRow (.new [.selectMenu { SelectMenu.new "colour" with values := ["red"] }])]⟩

/-- The submission is read, the menu sends its values, and nothing is found under its id. -/
theorem selected_row_missed : Submission.decode.ofValue paintJson = .ok paint ∧
    paint.selection? "colour" = some ⟨"colour", ["red"], true⟩ ∧ paint.selected? "colour" = none ∧
    ¬ ∀ (s : Submission) (id : String), s.selected? id = (s.selection? id).map Selection.values := by
  have hselection : paint.selection? "colour" = some ⟨"colour", ["red"], true⟩ := by decide
  have hmissed : paint.selected? "colour" = none := by decide
  refine ⟨by rfl, hselection, hmissed, fun h => ?_⟩
  have hfound := h paint "colour"
  rw [hmissed, hselection] at hfound
  cases hfound

end InteractionKit
