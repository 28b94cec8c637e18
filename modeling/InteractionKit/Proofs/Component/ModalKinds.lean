import InteractionKit.Proofs.Component.Nesting
/-
Kinds in a modal.

What a modal asks may hold a row, and what stands in the row is read as it is for a message. So every component of a tree
is of a kind that the family it is read in has, but below a row these are the kinds of messages: a kind that no modal may
ask is refused outside of rows, and read inside of them.

- `Slot.has_of_node`: every component of a tree is of a kind that its family has.
- `Slot.not_read_of_foreign`: a kind where its family lacks it refuses all that it stands in.
- `ModalComponent.decode_rowAround`: any component of a message may stand in a row of a modal.
- `modal_kinds_iff`: when all kinds in a tree are those of modals.
- `button_in_modal_row`: a button in a row of a modal.
-/
namespace InteractionKit

/-! ## Trees -/

/-- the family that a component is of -/
def Node.family : Node → Family
  | .message _ => .message
  | .modal _ => .modal

namespace Slot

variable {s t : Slot} {n x : Node}

theorem family_of_read (h : s.read = .ok n) : n.family = s.family := by
  obtain ⟨f, v⟩ := s
  cases f with
  | message =>
    obtain ⟨c, -, rfl⟩ := map_eq_ok h
    rfl
  | modal =>
    obtain ⟨c, -, rfl⟩ := map_eq_ok h
    rfl

/-- every component of a tree is of a kind that its family has -/
theorem has_of_node (hs : s.Stored) (h : s.read = .ok n) (hnx : n.Holds x) : x.family.has x.kind = true := by
  obtain ⟨t, -, -, hread⟩ := holds_of_node hs h hnx
  rw [family_of_read hread]
  exact (kind_of_read hread).2

/-- a kind that is told where its family lacks it refuses all that it stands in -/
theorem not_read_of_foreign (hs : s.Stored) (hst : s.Holds t) {k : ComponentKind} (hk : t.value.kind? = some k)
    (hlacks : t.family.has k = false) : s.read ≠ .ok n := by
  intro h
  obtain ⟨-, x, -, hread⟩ := holds_of_read hs h hst
  have hforeign := read_foreign_iff.2 ⟨rfl, Json.kind?_eq_some_iff.1 hk, hlacks⟩
  rw [hread] at hforeign
  cases hforeign

/-- the kinds of a tree are those of modals when the values read for messages tell no other -/
theorem kinds_iff (hs : s.Stored) (h : s.read = .ok n) :
    (∀ x, n.Holds x → x.kind.isModal = true) ↔
      ∀ t, s.Holds t → t.family = .message → ∀ k, t.value.kind? = some k → k.isModal = true := by
  constructor
  · intro hmodal t hst _ k hk
    obtain ⟨-, x, hx, hread⟩ := holds_of_read hs h hst
    have hnum := (kind_of_read hread).1
    have hkind : k = x.kind := ComponentKind.code_injective ((Json.kind?_eq_some_iff.1 hk).unique hnum)
    rw [hkind]
    exact hmodal x hx
  · intro hrows x hnx
    obtain ⟨t, hst, -, hread⟩ := holds_of_node hs h hnx
    obtain ⟨hnum, hhas⟩ := kind_of_read hread
    cases hfamily : t.family with
    | modal =>
      rw [hfamily] at hhas
      exact hhas
    | message => exact hrows t hst hfamily x.kind (Json.kind?_eq_some_iff.2 hnum)

end Slot

/-! ## Rows of a modal -/

/-- a row around one component -/
def rowAround (v : Json) : Json := .obj [("components", .arr [v]), ("type", .int 1)]

/-- any component of a message may stand in a row of a modal -/
theorem ModalComponent.decode_rowAround {v : Json} {c : Component} (h : Component.decode v = .ok c) :
    decode (rowAround v) = .ok (.actionRow (.new [c])) := by
  have hitems : Decoder.items Component.nested.ofValue [v] = .ok [c] :=
    Decoder.items_eq_ok_iff.2 (.cons (congrArg nestError h) .nil)
  have hframe : (ActionRow.reader (.list .unread)).decodeMembers
      [("components", .arr [v]), ("type", .int 1)] = .ok ⟨none, [v]⟩ := rfl
  have hmembers : (ActionRow.reader (.list Component.nested)).decodeMembers
      [("components", .arr [v]), ("type", .int 1)] =
      (Decoder.items Component.nested.ofValue [v]).map fun xs => ⟨none, xs⟩ := ActionRow.of_unread hframe Component.nested
  have hkind : ComponentKind.ofMembers .modal [("components", .arr [v]), ("type", .int 1)] = .ok .actionRow := rfl
  rw [hitems] at hmembers
  rw [rowAround, decode_obj, ofMembers, hkind]
  simp only [Reader.decodeShape, hmembers, Except.map]
  rfl

/-! ## Kinds of a modal -/

/-- What is read for a modal has, in every place, a kind of the family it is read in there. All its kinds are those of
modals just when no value in a row tells another; outside of rows a kind that no modal may ask is refused, but in a row
any component of a message may stand. -/
theorem modal_kinds_iff (v : Json) (hv : v.canonical = v) :
    (∀ m, ModalComponent.decode v = .ok m →
      (∀ x, Node.Holds (.modal m) x → x.family.has x.kind = true) ∧
      ((∀ x, Node.Holds (.modal m) x → x.kind.isModal = true) ↔
        ∀ t, Slot.Holds ⟨.modal, v⟩ t → t.family = .message → ∀ k, t.value.kind? = some k → k.isModal = true)) ∧
    (∀ t k, Slot.Holds ⟨.modal, v⟩ t → t.value.kind? = some k → t.family.has k = false →
      ∀ m, ModalComponent.decode v ≠ .ok m) ∧
    ∀ c, Component.decode v = .ok c → ModalComponent.decode (rowAround v) = .ok (.actionRow (.new [c])) := by
  have hs : Slot.Stored ⟨.modal, v⟩ := hv
  have hread {m : ModalComponent} (h : ModalComponent.decode v = .ok m) : Slot.read ⟨.modal, v⟩ = .ok (.modal m) :=
    congrArg (Except.map Node.modal) h
  refine ⟨fun m h => ⟨fun x hx => ?_, ?_⟩, fun t k hst hk hlacks m h => ?_, fun c => ModalComponent.decode_rowAround⟩
  · exact Slot.has_of_node hs (hread h) hx
  · exact Slot.kinds_iff hs (hread h)
  · exact Slot.not_read_of_foreign hs hst hk hlacks (hread h)

/-- a text input -/
def titleInput : Json := .obj [("custom_id", .str "title"), ("style", .int 1), ("type", .int 4)]

theorem modal_kinds_iff_title : (rowAround titleInput).canonical = rowAround titleInput ∧
    ∃ m, ModalComponent.decode (rowAround titleInput) = .ok m ∧
      ∀ x, Node.Holds (.modal m) x → x.kind.isModal = true := by
  have hv : (rowAround titleInput).canonical = rowAround titleInput := rfl
  have hread : ModalComponent.decode (rowAround titleInput) = .ok _ := ModalComponent.decode_rowAround rfl
  obtain ⟨hkinds, -, -⟩ := modal_kinds_iff (rowAround titleInput) hv
  refine ⟨hv, _, hread, (hkinds _ hread).2.2 fun t hst hfamily k hk => ?_⟩
  have hrow : Slot.children ⟨.modal, rowAround titleInput⟩ = [⟨.message, titleInput⟩] := rfl
  have hleaf : Slot.children ⟨.message, titleInput⟩ = [] := rfl
  rcases Relation.ReflTransGen.cases_head_iff.1 hst with rfl | ⟨u, hu, hut⟩
  · cases hfamily
  · rw [hrow] at hu
    obtain rfl := List.mem_singleton.1 hu
    rcases Relation.ReflTransGen.cases_head_iff.1 hut with rfl | ⟨w, hw, -⟩
    · cases hk
      rfl
    · rw [hleaf] at hw
      cases hw

/-- a button with a name -/
def goButton : Json := .obj [("custom_id", .str "go"), ("style", .int 1), ("type", .int 2)]

/-- A button stands in a row of a modal, though no modal may ask one. -/
theorem button_in_modal_row : (rowAround goButton).canonical = rowAround goButton ∧
    ModalComponent.decode (rowAround goButton) = .ok (.actionRow (.new [.button (Button.new .primary "go")])) ∧
    ModalComponent.decode goButton = .error (.foreignKind .modal .button) ∧
    ¬ ∀ (v : Json) (m : ModalComponent), v.canonical = v → ModalComponent.decode v = .ok m →
      ∀ x, Node.Holds (.modal m) x → x.kind.isModal = true := by
  have hv : (rowAround goButton).canonical = rowAround goButton := rfl
  have hread : ModalComponent.decode (rowAround goButton) =
      .ok (.actionRow (.new [.button (Button.new .primary "go")])) := ModalComponent.decode_rowAround rfl
  refine ⟨hv, hread, rfl, fun h => ?_⟩
  have hmodal := h _ _ hv hread (.message (.button (Button.new .primary "go"))) (.single List.mem_cons_self)
  cases hmodal

end InteractionKit
