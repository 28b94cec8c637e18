import InteractionKit.Proofs.Component.Kinds
import InteractionKit.Proofs.Lists
import Mathlib.Logic.Relation
/-
Components below components.

A value is read just when its kind may stand where it stands, its own fields are in order and every value below it that
is met as a child is read. What is read has a child for each of those values, in their order. A value whose own fields
are in order is refused for its children alone: for the first that is refused, whose refusal it passes on.

- `Slot.children`, `Node.children`: the values that are met as children, and the children of what was read.
- `ComponentKind.FieldsFit`, `Slot.Fits`: all is in order but the children.
- `Slot.turns`: over fields that fit the children decide.
- `Slot.Holds`, `Node.Holds`: all that stands in a value, and in a tree, at every depth.
- `Slot.holds_of_read`, `Slot.holds_of_node`: a tree that is read has the components that its values are read as.
- `Slot.read_iff_all_fit`: a value is read when all that stands in it fits.
- `nested_all_or_nothing`: when a value is read, what stands in it then, and why it is refused.
-/
namespace InteractionKit

open Decoder Reader

/-! ## Kinds -/

/-- the kind that the number under `type` stands for -/
def Json.kind? (v : Json) : Option ComponentKind :=
  match v.get? "type" with
  | some (.int n) => ComponentKind.ofCode? n.toNat
  | _ => none

theorem ComponentKind.code_pos (k : ComponentKind) : 0 < k.code := by cases k <;> decide

theorem Json.kind?_eq_some_iff {v : Json} {k : ComponentKind} : v.kind? = some k ↔ v.Numbered k.code := by
  unfold Json.kind?
  constructor
  · intro h
    split at h
    · next n hn =>
      have hcode := ComponentKind.code_of_ofCode? h
      have hpos := k.code_pos
      have hle := k.code_le
      have hcast : (k.code : Int) = n := by omega
      exact ⟨by rw [hcast, hn], by omega⟩
    · cases h
  · intro h
    rw [h.1]
    exact ComponentKind.ofCode?_code k

/-! ## Children -/

/-- the values that are children of a kind, in the order in which they are met -/
def ComponentKind.slots (k : ComponentKind) (v : Json) : List Slot :=
  match k with
  | .actionRow | .container => (v.itemsAt "components").map (Slot.mk .message)
  | .section => ((v.get? "accessory").toList ++ v.itemsAt "components").map (Slot.mk .message)
  | .label => (v.get? "component").toList.map (Slot.mk .modal)
  | _ => []

/-- the values that are met as children -/
def Slot.children (s : Slot) : List Slot := s.value.kind?.elim [] fun k => k.slots s.value

theorem Slot.children_of_kind {s : Slot} {k : ComponentKind} (h : s.value.kind? = some k) :
    s.children = k.slots s.value := by
  rw [children, h, Option.elim_some]

/-- the children of a component, what stands beside a text before the text -/
def Node.children : Node → List Node
  | .message (.actionRow row) => row.components.map .message
  | .message (.container box) => box.components.map .message
  | .message (.textSection s) => .message s.accessory :: s.components.map .message
  | .modal (.actionRow row) => row.components.map .message
  | .modal (.label l) => [.modal l.component]
  | _ => []

/-- the second stands in the first, or is the first -/
def Slot.Holds : Slot → Slot → Prop := Relation.ReflTransGen fun s t => t ∈ s.children

/-- the same in a tree -/
def Node.Holds : Node → Node → Prop := Relation.ReflTransGen fun x y => y ∈ x.children

/-- the fields of a kind fit, whatever stands for the children -/
def ComponentKind.FieldsFit (k : ComponentKind) (v : Json) : Prop :=
  match k with
  | .actionRow => ((ActionRow.reader (.list .unread)).decode "ActionRow").Takes v
  | .container => ((Container.reader (.list .unread)).decode "Container").Takes v
  | .section => ((TextSection.reader (.list .unread) .unread).decode "Section").Takes v
  | .label => ((Label.reader .unread).decode "Label").Takes v
  | .button => (Button.reader.decode "Button").Takes v
  | .textSelectMenu => ((SelectMenu.reader .text).decode "SelectMenu").Takes v
  | .userSelectMenu => ((SelectMenu.reader .user).decode "SelectMenu").Takes v
  | .roleSelectMenu => ((SelectMenu.reader .role).decode "SelectMenu").Takes v
  | .mentionableSelectMenu => ((SelectMenu.reader .mentionable).decode "SelectMenu").Takes v
  | .channelSelectMenu => ((SelectMenu.reader .channel).decode "SelectMenu").Takes v
  | .textInput => (TextInput.reader.decode "TextInput").Takes v
  | .textDisplay => (TextDisplay.reader.decode "TextDisplay").Takes v
  | .thumbnail => (Thumbnail.reader.decode "Thumbnail").Takes v
  | .mediaGallery => (MediaGallery.reader.decode "MediaGallery").Takes v
  | .file => (FileDisplay.reader.decode "FileDisplay").Takes v
  | .separator => (Separator.reader.decode "Separator").Takes v
  | .fileUpload => (FileUpload.reader.decode "FileUpload").Takes v

namespace Slot

/-- a kind that may stand here, with fields that fit -/
def Fits (s : Slot) : Prop := ∃ k, s.value.kind? = some k ∧ s.family.has k = true ∧ k.FieldsFit s.value

/-- a value in its stored form -/
def Stored (s : Slot) : Prop := s.value.canonical = s.value

/-! ## Over fields that fit -/

/-- Over what fits the children decide: they are all read, or the value is refused as the first of them. -/
structure Turns (s : Slot) (fit : Prop) : Prop where
  of_fit : fit → (∃ n, s.read = .ok n) ∨
    ∃ e, s.read = .error (.shape (.nested e)) ∧ items Slot.read s.children = .error e
  of_read : ∀ n, s.read = .ok n → fit ∧ items Slot.read s.children = .ok n.children

section Shapes

variable {s : Slot} {ms : Members} {α₀ α β : Type} {r₀ : Reader α₀} {r : Reader α} {g : α → β} {node : β → Node}
  {name : String}

/-- a shape over its frame, which has the children unread -/
theorem turns_of_shape (hread : s.read = (r.decodeShape g ms).map node)
    (hframe : ∀ a₀, r₀.decodeMembers ms = .ok a₀ → (∃ a, r.decodeMembers ms = .ok a) ∨
      ∃ e, r.decodeMembers ms = .error (.nested e) ∧ items Slot.read s.children = .error e)
    (hshape : ∀ a, r.decodeMembers ms = .ok a → (∃ a₀, r₀.decodeMembers ms = .ok a₀) ∧
      items Slot.read s.children = .ok (node (g a)).children) : s.Turns ((r₀.decode name).Takes (.obj ms)) := by
  unfold Reader.decodeShape at hread
  refine ⟨?_, ?_⟩
  · rintro ⟨a₀, ha₀⟩
    rcases hframe a₀ ha₀ with ⟨a, ha⟩ | ⟨e, he, hitems⟩
    · rw [ha] at hread
      exact .inl ⟨_, hread⟩
    · rw [he] at hread
      exact .inr ⟨e, hread, hitems⟩
  · intro n hn
    cases hr : r.decodeMembers ms with
    | error e =>
      rw [hr, hn] at hread
      cases hread
    | ok a =>
      rw [hr, hn] at hread
      cases hread
      exact hshape a hr

/-- a shape without children is its own frame -/
theorem turns_of_leaf (hread : s.read = (r.decodeShape g ms).map node) (hchildren : s.children = [])
    (hnode : ∀ a, (node (g a)).children = []) : s.Turns ((r.decode name).Takes (.obj ms)) := by
  refine turns_of_shape hread (fun a ha => .inl ⟨a, ha⟩) fun a ha => ⟨⟨a, ha⟩, ?_⟩
  rw [hchildren, hnode]
  rfl

end Shapes

/-- a child is refused in its record for what it is refused for by itself -/
theorem nested_cases {α : Type} (x : Except DecodeError α) (node : α → Node) :
    (∃ c, nestError x = .ok c ∧ x.map node = .ok (node c)) ∨
      ∃ e, nestError x = .error (.nested e) ∧ x.map node = .error e := by
  cases x with
  | ok c => exact .inl ⟨c, rfl, rfl⟩
  | error e => exact .inr ⟨e, rfl, rfl⟩

theorem read_message_cases (v : Json) :
    (∃ c, Component.nested.ofValue v = .ok c ∧ (mk .message v).read = .ok (.message c)) ∨
      ∃ e, Component.nested.ofValue v = .error (.nested e) ∧ (mk .message v).read = .error e :=
  nested_cases (Component.decode v) .message

theorem read_modal_cases (v : Json) :
    (∃ c, ModalComponent.nested.ofValue v = .ok c ∧ (mk .modal v).read = .ok (.modal c)) ∨
      ∃ e, ModalComponent.nested.ofValue v = .error (.nested e) ∧ (mk .modal v).read = .error e :=
  nested_cases (ModalComponent.decode v) .modal

/-- a list of children is read alike in its record and by itself -/
theorem items_message_cases (vs : List Json) :
    (∃ xs, items Component.nested.ofValue vs = .ok xs ∧
      items Slot.read (vs.map (mk .message)) = .ok (xs.map .message)) ∨
    ∃ e, items Component.nested.ofValue vs = .error (.nested e) ∧
      items Slot.read (vs.map (mk .message)) = .error e := by
  induction vs with
  | nil => exact .inl ⟨[], rfl, rfl⟩
  | cons v vs ih =>
    simp only [List.map_cons, items]
    rcases read_message_cases v with ⟨c, hc, hread⟩ | ⟨e, he, hread⟩
    · rw [hc, hread]
      rcases ih with ⟨xs, hxs, hreads⟩ | ⟨e, he, hreads⟩
      · exact .inl ⟨c :: xs, by simp only [hxs, Except.map], by simp only [hreads, Except.map, List.map_cons]⟩
      · exact .inr ⟨e, by simp only [he, Except.map], by simp only [hreads, Except.map]⟩
    · rw [he, hread]
      exact .inr ⟨e, rfl, rfl⟩

theorem items_message_of_nested {vs : List Json} {xs : List Component}
    (h : items Component.nested.ofValue vs = .ok xs) :
    items Slot.read (vs.map (mk .message)) = .ok (xs.map .message) := by
  rcases items_message_cases vs with ⟨ys, hys, hreads⟩ | ⟨e, he, -⟩
  · rw [h] at hys
    cases hys
    exact hreads
  · rw [h] at he
    cases he

/-- a layout whose children are the items of a list -/
theorem turns_of_items {s : Slot} {ms : Members} {vs : List Json} {α₀ α β : Type} {r₀ : Reader α₀} {r : Reader α}
    {g : α → β} {node : β → Node} {name : String} {kids : α → List Component}
    (hread : s.read = (r.decodeShape g ms).map node)
    (hchildren : s.children = vs.map (mk .message)) (hnode : ∀ a, (node (g a)).children = (kids a).map .message)
    (hframe : ∀ a₀, r₀.decodeMembers ms = .ok a₀ →
      ∃ make, r.decodeMembers ms = (items Component.nested.ofValue vs).map make)
    (hshape : ∀ a, r.decodeMembers ms = .ok a → (∃ a₀, r₀.decodeMembers ms = .ok a₀) ∧
      items Component.nested.ofValue vs = .ok (kids a)) : s.Turns ((r₀.decode name).Takes (.obj ms)) := by
  refine turns_of_shape hread ?_ ?_
  · intro a₀ ha₀
    obtain ⟨make, hmake⟩ := hframe a₀ ha₀
    rw [hmake, hchildren]
    rcases items_message_cases vs with ⟨xs, hxs, -⟩ | ⟨e, he, hreads⟩
    · exact .inl ⟨make xs, by rw [hxs]; rfl⟩
    · exact .inr ⟨e, by rw [he]; rfl, hreads⟩
  · intro a ha
    obtain ⟨hfit, hitems⟩ := hshape a ha
    rw [hchildren, hnode]
    exact ⟨hfit, items_message_of_nested hitems⟩

/-- a section over its text and what stands beside it -/
theorem turns_of_section {s : Slot} {ms : Members} (hms : ms.Pairwise fun p q => p.1 < q.1)
    (hread : s.read = ((TextSection.reader (.list Component.nested) Component.nested).decodeShape
      .textSection ms).map .message)
    (hchildren : s.children =
      ((Json.get? "accessory" (.obj ms)).toList ++ Json.itemsAt "components" (.obj ms)).map (mk .message)) :
    s.Turns (((TextSection.reader (.list .unread) .unread).decode "Section").Takes (.obj ms)) := by
  refine turns_of_shape hread ?_ ?_
  · intro frame hframe
    obtain ⟨hget, hmembers⟩ := TextSection.of_unread hms hframe Component.nested
    rw [hmembers, hchildren, hget]
    simp only [Option.toList_some, List.cons_append, List.nil_append, List.map_cons, items]
    rcases read_message_cases frame.accessory with ⟨c, hc, hreads⟩ | ⟨e, he, hreads⟩
    · rw [hc, hreads]
      rcases items_message_cases (Json.itemsAt "components" (.obj ms)) with ⟨xs, hxs, -⟩ | ⟨e, he, hitems⟩
      · exact .inl ⟨⟨frame.id, xs, c⟩, by rw [hxs]; rfl⟩
      · exact .inr ⟨e, by rw [he]; rfl, by rw [hitems]; rfl⟩
    · rw [he, hreads]
      exact .inr ⟨e, rfl, rfl⟩
  · intro t ht
    obtain ⟨hfit, hitems, v, hget, hv⟩ := TextSection.unread_of ht
    refine ⟨hfit, ?_⟩
    rw [hchildren, hget]
    simp only [Option.toList_some, List.cons_append, List.nil_append, List.map_cons, items]
    rcases read_message_cases v with ⟨c, hc, hreads⟩ | ⟨e, he, -⟩
    · rw [hv] at hc
      cases hc
      rw [hreads, items_message_of_nested hitems]
      rfl
    · rw [hv] at he
      cases he

/-- a label over its one child -/
theorem turns_of_label {s : Slot} {ms : Members}
    (hread : s.read = ((Label.reader ModalComponent.nested).decodeShape .label ms).map .modal)
    (hchildren : s.children = (Json.get? "component" (.obj ms)).toList.map (mk .modal)) :
    s.Turns (((Label.reader .unread).decode "Label").Takes (.obj ms)) := by
  refine turns_of_shape hread ?_ ?_
  · intro frame hframe
    obtain ⟨hget, hmembers⟩ := Label.of_unread hframe ModalComponent.nested
    rw [hmembers, hchildren, hget]
    simp only [Option.toList_some, List.map_cons, List.map_nil, items]
    rcases read_modal_cases frame.component with ⟨c, hc, -⟩ | ⟨e, he, hreads⟩
    · exact .inl ⟨⟨frame.id, frame.label, frame.description, c⟩, by rw [hc]; rfl⟩
    · exact .inr ⟨e, by rw [he]; rfl, by rw [hreads]⟩
  · intro l hl
    obtain ⟨hfit, v, hget, hv⟩ := Label.unread_of hl
    refine ⟨hfit, ?_⟩
    rw [hchildren, hget]
    simp only [Option.toList_some, List.map_cons, List.map_nil, items]
    rcases read_modal_cases v with ⟨c, hc, hreads⟩ | ⟨e, he, -⟩
    · rw [hv] at hc
      cases hc
      rw [hreads]
      rfl
    · rw [hv] at he
      cases he

theorem turns_message {ms : Members} (hms : ms.Pairwise fun p q => p.1 < q.1) {k : ComponentKind}
    (hk : (Json.obj ms).kind? = some k) (hmessage : k.isMessage = true) :
    (mk .message (.obj ms)).Turns (k.FieldsFit (.obj ms)) := by
  have hread : (mk .message (.obj ms)).read =
      (Component.ofMembers ms (.list Component.nested) Component.nested).map .message :=
    congrArg (Except.map Node.message) (Component.decode_obj ms)
  rw [Component.ofMembers, ComponentKind.ofMembers_of_numbered (Json.kind?_eq_some_iff.1 hk)] at hread
  have hchildren := children_of_kind (s := mk .message (.obj ms)) hk
  cases k with
  | actionRow =>
    exact turns_of_items hread hchildren (fun _ => rfl)
      (fun _ h => ⟨_, ActionRow.of_unread h Component.nested⟩) fun _ h => ActionRow.unread_of h
  | container =>
    exact turns_of_items hread hchildren (fun _ => rfl)
      (fun _ h => ⟨_, Container.of_unread h Component.nested⟩) fun _ h => Container.unread_of h
  | «section» => exact turns_of_section hms hread hchildren
  | label | fileUpload => cases hmessage
  | _ => exact turns_of_leaf hread hchildren fun _ => rfl

theorem turns_modal {ms : Members} {k : ComponentKind} (hk : (Json.obj ms).kind? = some k)
    (hmodal : k.isModal = true) : (mk .modal (.obj ms)).Turns (k.FieldsFit (.obj ms)) := by
  have hread : (mk .modal (.obj ms)).read =
      (ModalComponent.ofMembers ms ModalComponent.nested).map .modal :=
    congrArg (Except.map Node.modal) (ModalComponent.decode_obj ms)
  rw [ModalComponent.ofMembers, ComponentKind.ofMembers_of_numbered (Json.kind?_eq_some_iff.1 hk)] at hread
  have hchildren := children_of_kind (s := mk .modal (.obj ms)) hk
  cases k with
  | actionRow =>
    exact turns_of_items hread hchildren (fun _ => rfl)
      (fun _ h => ⟨_, ActionRow.of_unread h Component.nested⟩) fun _ h => ActionRow.unread_of h
  | label => exact turns_of_label hread hchildren
  | textInput | textSelectMenu | userSelectMenu | roleSelectMenu | mentionableSelectMenu | channelSelectMenu
  | textDisplay | fileUpload => exact turns_of_leaf hread hchildren fun _ => rfl
  | _ => cases hmodal

/-- over fields that fit the children decide -/
theorem turns {s : Slot} (hs : s.Stored) {k : ComponentKind} (hk : s.value.kind? = some k)
    (hhas : s.family.has k = true) : s.Turns (k.FieldsFit s.value) := by
  obtain ⟨f, v⟩ := s
  cases v with
  | obj ms =>
    cases f with
    | message => exact turns_message (Json.settled_of_stored hs).rising hk hhas
    | modal => exact turns_modal hk hhas
  | _ => cases hk

variable {s t : Slot}

theorem fits_of_read (hs : s.Stored) {n : Node} (h : s.read = .ok n) :
    s.Fits ∧ items Slot.read s.children = .ok n.children := by
  obtain ⟨hnum, hhas⟩ := kind_of_read h
  have hk := Json.kind?_eq_some_iff.2 hnum
  obtain ⟨hfit, hitems⟩ := (turns hs hk hhas).of_read n h
  exact ⟨⟨n.kind, hk, hhas, hfit⟩, hitems⟩

theorem read_of_fits (hs : s.Stored) (h : s.Fits) : (∃ n, s.read = .ok n) ∨
    ∃ e, s.read = .error (.shape (.nested e)) ∧ items Slot.read s.children = .error e := by
  obtain ⟨k, hk, hhas, hfit⟩ := h
  exact (turns hs hk hhas).of_fit hfit

/-- a value is read when it fits and all its children are read -/
theorem read_iff (hs : s.Stored) : (∃ n, s.read = .ok n) ↔ s.Fits ∧ ∀ t ∈ s.children, ∃ n, t.read = .ok n := by
  rw [← exists_items_iff]
  constructor
  · rintro ⟨n, hn⟩
    obtain ⟨hfit, hitems⟩ := fits_of_read hs hn
    exact ⟨hfit, n.children, hitems⟩
  · rintro ⟨hfit, ns, hns⟩
    rcases read_of_fits hs hfit with hread | ⟨e, -, he⟩
    · exact hread
    · rw [hns] at he
      cases he

/-- a value that fits is refused as the first of its children that is -/
theorem read_error_iff (hs : s.Stored) (hfit : s.Fits) {e : DecodeError} :
    s.read = .error e ↔ ∃ before t after cause, s.children = before ++ t :: after ∧
      (∀ u ∈ before, ∃ n, u.read = .ok n) ∧ t.read = .error cause ∧ e = .shape (.nested cause) := by
  constructor
  · intro h
    rcases read_of_fits hs hfit with ⟨n, hn⟩ | ⟨cause, hread, hitems⟩
    · rw [h] at hn
      cases hn
    · obtain ⟨before, t, after, hsplit, hbefore, ht⟩ := items_eq_error_iff.1 hitems
      rw [h] at hread
      exact ⟨before, t, after, cause, hsplit, hbefore, ht, Except.error.inj hread⟩
  · rintro ⟨before, t, after, cause, hsplit, hbefore, ht, rfl⟩
    have hitems : items Slot.read s.children = .error cause :=
      items_eq_error_iff.2 ⟨before, t, after, hsplit, hbefore, ht⟩
    rcases read_of_fits hs hfit with ⟨n, hn⟩ | ⟨e, hread, he⟩
    · rw [(fits_of_read hs hn).2] at hitems
      cases hitems
    · rw [hitems] at he
      cases he
      exact hread

/-! ## At every depth -/

theorem mem_slots {k : ComponentKind} {v : Json} (h : t ∈ k.slots v) :
    ∃ key, v.get? key = some t.value ∨ t.value ∈ v.itemsAt key := by
  cases k with
  | actionRow | container =>
    obtain ⟨w, hw, rfl⟩ := List.mem_map.1 h
    exact ⟨_, .inr hw⟩
  | «section» =>
    obtain ⟨w, hw, rfl⟩ := List.mem_map.1 h
    rcases List.mem_append.1 hw with hw | hw
    · exact ⟨_, .inl (Option.mem_toList.1 hw)⟩
    · exact ⟨_, .inr hw⟩
  | label =>
    obtain ⟨w, hw, rfl⟩ := List.mem_map.1 h
    exact ⟨_, .inl (Option.mem_toList.1 hw)⟩
  | _ => cases h

theorem mem_children (h : t ∈ s.children) : ∃ key, s.value.get? key = some t.value ∨ t.value ∈ s.value.itemsAt key := by
  cases hk : s.value.kind? with
  | none =>
    rw [children, hk] at h
    cases h
  | some k =>
    rw [children_of_kind hk] at h
    exact mem_slots h

theorem sizeOf_lt_of_mem_children (h : t ∈ s.children) : sizeOf t.value < sizeOf s.value := by
  obtain ⟨key, hkey | hkey⟩ := mem_children h
  · exact Json.sizeOf_get? hkey
  · exact Json.sizeOf_itemsAt hkey

/-- what stands in a stored value is stored -/
theorem Stored.child (hs : s.Stored) (h : t ∈ s.children) : t.Stored := by
  obtain ⟨key, hkey | hkey⟩ := mem_children h
  · exact Json.stored_get? hs hkey
  · exact Json.stored_itemsAt hs hkey

/-- the children of what is read are the children of the value, read -/
theorem children_read {n : Node} (hs : s.Stored) (h : s.read = .ok n) :
    List.Forall₂ (fun t x => t.read = .ok x) s.children n.children :=
  items_eq_ok_iff.1 (fits_of_read hs h).2

/-- what stands in a value that is read is read as what stands in the tree -/
theorem holds_of_read {n : Node} (hs : s.Stored) (h : s.read = .ok n) (hst : s.Holds t) :
    t.Stored ∧ ∃ x, n.Holds x ∧ t.read = .ok x := by
  induction hst with
  | refl => exact ⟨hs, n, .refl, h⟩
  | tail _ hmem ih =>
    obtain ⟨hstored, x, hx, hread⟩ := ih
    obtain ⟨y, hy, hready⟩ := (forall₂_exists_of_mem (children_read hstored hread)).1 _ hmem
    exact ⟨hstored.child hmem, y, hx.tail hy, hready⟩

/-- what stands in the tree was read from what stands in the value -/
theorem holds_of_node {n x : Node} (hs : s.Stored) (h : s.read = .ok n) (hnx : n.Holds x) :
    ∃ t, s.Holds t ∧ t.Stored ∧ t.read = .ok x := by
  induction hnx with
  | refl => exact ⟨s, .refl, hs, h⟩
  | tail _ hmem ih =>
    obtain ⟨t, hst, hstored, hread⟩ := ih
    obtain ⟨u, hu, hreadu⟩ := (forall₂_exists_of_mem (children_read hstored hread)).2 _ hmem
    exact ⟨u, hst.tail hu, hstored.child hu, hreadu⟩

/-- a value is read when all that stands in it fits: by induction on the value -/
theorem read_of_all_fit (s : Slot) (hs : s.Stored) (h : ∀ t, s.Holds t → t.Fits) : ∃ n, s.read = .ok n := by
  refine (read_iff hs).2 ⟨h s .refl, fun t ht => ?_⟩
  exact read_of_all_fit t (hs.child ht) fun u hu => h u (.head ht hu)
termination_by sizeOf s.value
decreasing_by exact sizeOf_lt_of_mem_children ht

theorem read_iff_all_fit (hs : s.Stored) : (∃ n, s.read = .ok n) ↔ ∀ t, s.Holds t → t.Fits := by
  constructor
  · rintro ⟨n, hn⟩ t hst
    obtain ⟨hstored, x, -, hread⟩ := holds_of_read hs hn hst
    exact (fits_of_read hstored hread).1
  · exact read_of_all_fit s hs

/-! ## Layouts of their own -/

/-- a section that fits has something beside its text -/
theorem children_of_section (hs : s.Stored) (hfit : s.Fits) (hk : s.value.kind? = some .section) :
    ∃ v, s.value.get? "accessory" = some v ∧
      s.children = ⟨.message, v⟩ :: (s.value.itemsAt "components").map (mk .message) := by
  obtain ⟨k, hkind, -, hfields⟩ := hfit
  rw [hk] at hkind
  cases hkind
  rw [children_of_kind hk]
  obtain ⟨f, v⟩ := s
  cases v with
  | obj ms =>
    obtain ⟨frame, hframe⟩ := hfields
    obtain ⟨hget, -⟩ := TextSection.of_unread (Json.settled_of_stored hs).rising hframe Component.nested
    refine ⟨frame.accessory, hget, ?_⟩
    rw [ComponentKind.slots, hget]
    rfl
  | _ => cases hk

/-- a label that fits has one child, read as in a modal -/
theorem children_of_label (hfit : s.Fits) (hk : s.value.kind? = some .label) :
    ∃ v, s.value.get? "component" = some v ∧ s.children = [⟨.modal, v⟩] := by
  obtain ⟨k, hkind, -, hfields⟩ := hfit
  rw [hk] at hkind
  cases hkind
  rw [children_of_kind hk]
  obtain ⟨f, v⟩ := s
  cases v with
  | obj ms =>
    obtain ⟨frame, hframe⟩ := hfields
    obtain ⟨hget, -⟩ := Label.of_unread hframe ModalComponent.nested
    refine ⟨frame.component, hget, ?_⟩
    rw [ComponentKind.slots, hget]
    rfl
  | _ => cases hk

end Slot

/-! ## All or nothing -/

/-- a refusal that is passed on keeps its text -/
theorem ReadError.message_nested (cause : DecodeError) : (ReadError.nested cause).message = cause.message := rfl

/-- A stored value is read just when it fits and every child is read, which is when all that stands in it fits; its
children are then those that were read, one for one. One that fits is refused as the first child that is refused, with
the text of that child's refusal. Rows and containers take the items of a list, a section what stands beside them first,
a label one component of a modal. -/
theorem nested_all_or_nothing (s : Slot) (hs : s.Stored) :
    ((∃ n, s.read = .ok n) ↔ s.Fits ∧ ∀ t ∈ s.children, ∃ n, t.read = .ok n) ∧
    (∀ n, s.read = .ok n → List.Forall₂ (fun t m => t.read = .ok m) s.children n.children) ∧
    (s.Fits → ∀ e, s.read = .error e ↔ ∃ before t after cause, s.children = before ++ t :: after ∧
      (∀ u ∈ before, ∃ n, u.read = .ok n) ∧ t.read = .error cause ∧
      e = .shape (.nested cause) ∧ (ReadError.nested cause).message = cause.message) ∧
    ((∃ n, s.read = .ok n) ↔ ∀ t, s.Holds t → t.Fits) ∧
    (s.value.kind? = some .actionRow ∨ s.value.kind? = some .container →
      s.children = (s.value.itemsAt "components").map (Slot.mk .message)) ∧
    (s.Fits → s.value.kind? = some .section → ∃ v, s.value.get? "accessory" = some v ∧
      s.children = ⟨.message, v⟩ :: (s.value.itemsAt "components").map (Slot.mk .message)) ∧
    (s.Fits → s.value.kind? = some .label → ∃ v, s.value.get? "component" = some v ∧ s.children = [⟨.modal, v⟩]) := by
  refine ⟨Slot.read_iff hs, ?_, ?_, Slot.read_iff_all_fit hs, ?_, Slot.children_of_section hs, Slot.children_of_label⟩
  · intro n hn
    exact Slot.children_read hs hn
  · intro hfit e
    rw [Slot.read_error_iff hs hfit]
    simp only [ReadError.message_nested, and_true]
  · rintro (hk | hk) <;> exact Slot.children_of_kind hk

/-- a container around a row whose second component has an unknown number -/
def boxedUnknown : Slot :=
  ⟨.message, .obj [
    ("components", .arr [.obj [
      ("components", .arr [.obj [("content", .str "vote"), ("type", .int 10)], .obj [("type", .int 99)]]),
      ("type", .int 1)]]),
    ("type", .int 17)]⟩

theorem nested_all_or_nothing_boxed : boxedUnknown.Stored ∧
    boxedUnknown.read = .error (.shape (.nested (.shape (.nested (.unknownKind .message 99))))) := by
  have hs : boxedUnknown.Stored := by rfl
  have hfit : boxedUnknown.Fits := ⟨.container, rfl, rfl, _, rfl⟩
  obtain ⟨-, -, hrefused, -⟩ := nested_all_or_nothing boxedUnknown hs
  exact ⟨hs, (hrefused hfit _).2 ⟨[], _, [], _, rfl, by simp, rfl, rfl, rfl⟩⟩

end InteractionKit
