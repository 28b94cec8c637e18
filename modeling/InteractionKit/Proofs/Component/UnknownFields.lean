import InteractionKit.Proofs.Component.Nesting
import InteractionKit.Proofs.Json.Passing
/-
Members that no field of a component is named after.

The number under `type` selects the fields of a component, and its reader asks for members of their names alone. So a
member of another name changes nothing: neither what is read nor, if the component is refused, the refusal. This holds at
every depth, as a child is told to the layout around it only by what it is read as. The kind of a select menu is no field,
so no member under `kind` decides it.

- `ComponentKind.fields`: the names of the fields of each kind.
- `Component.ofMembers_of_without`, `ModalComponent.ofMembers_of_without`: a component, whatever stands under other names.
- `Component.ofMembers_exchanged`, `ModalComponent.ofMembers_exchanged`: a component, with a child exchanged for another
  that is read alike.
- `Json.DifferAt`: two values that differ in one component, in members that no field of it is named after.
- `unknown_members_invisible`: both are read alike, in both families.
-/
namespace InteractionKit

open Decoder Reader

/-! ## Fields -/

/-- the names of the fields of each kind -/
def ComponentKind.fields : ComponentKind → List String
  | .actionRow => ["id", "components"]
  | .button => ["id", "custom_id", "disabled", "emoji", "label", "style", "url", "sku_id"]
  | .textSelectMenu | .userSelectMenu | .roleSelectMenu | .mentionableSelectMenu | .channelSelectMenu =>
    ["id", "custom_id", "placeholder", "min_values", "max_values", "disabled", "options", "channel_types",
      "default_values", "required", "values"]
  | .textInput =>
    ["id", "custom_id", "style", "label", "placeholder", "min_length", "max_length", "required", "value"]
  | .section => ["id", "components", "accessory"]
  | .textDisplay => ["id", "content"]
  | .thumbnail => ["id", "media", "description", "spoiler"]
  | .mediaGallery => ["id", "items"]
  | .file => ["id", "file", "spoiler", "name", "size"]
  | .separator => ["id", "divider", "spacing"]
  | .container => ["id", "accent_color", "spoiler", "components"]
  | .label => ["id", "label", "description", "component"]
  | .fileUpload => ["id", "custom_id", "min_values", "max_values", "required", "values"]

section Passes

variable {γ : Type}

theorem ActionRow.passes (children : Decoder (List γ)) : (reader children).Passes := .pass .first

theorem Button.passes : reader.Passes := by
  iterate 7 refine .pass ?_
  exact .first

theorem SelectMenu.passes (kind : MenuKind) : (reader kind).Passes := by
  iterate 10 refine .pass ?_
  exact .first

theorem TextInput.passes : reader.Passes := by
  iterate 8 refine .pass ?_
  exact .first

theorem TextSection.passes (children : Decoder (List γ)) (accessory : Decoder γ) : (reader children accessory).Passes :=
  .pass (.pass .first)

theorem TextDisplay.passes : reader.Passes := .pass .first

theorem Thumbnail.passes : reader.Passes := .pass (.pass (.pass .first))

theorem MediaGallery.passes : reader.Passes := .pass .first

theorem FileDisplay.passes : reader.Passes := .pass (.pass (.pass (.pass .first)))

theorem Separator.passes : reader.Passes := .pass (.pass .first)

theorem Container.passes (children : Decoder (List γ)) : (reader children).Passes := .pass (.pass (.pass .first))

theorem Label.passes (child : Decoder γ) : (reader child).Passes := .pass (.pass (.pass .first))

theorem FileUpload.passes : reader.Passes := by
  iterate 5 refine .pass ?_
  exact .first

end Passes

/-! ## Components -/

section Members

variable {name : String} {ms ns : Members}

theorem Reader.Passes.decodeShape {α β : Type} {r : Reader α} (h : r.Passes) (hname : name ∉ r.names)
    (hms : Json.without name ns = Json.without name ms) (f : α → β) : r.decodeShape f ns = r.decodeShape f ms := by
  unfold Reader.decodeShape
  rw [← h.decodeMembers_without hname ns, hms, h.decodeMembers_without hname ms]

/-- the kind is told by what stands under `type` -/
theorem ComponentKind.ofMembers_congr (h : Json.get? "type" (.obj ns) = Json.get? "type" (.obj ms)) (f : Family) :
    ofMembers f ns = ofMembers f ms := by
  unfold ofMembers
  rw [Json.get?, Json.get?] at h
  cases hns : Json.find "type" ns with
  | none =>
    rw [hns, Option.map_none, eq_comm, Option.map_eq_none_iff] at h
    rw [h]
  | some p =>
    obtain ⟨v, rest⟩ := p
    rw [hns, Option.map_some, eq_comm, Option.map_eq_some_iff] at h
    obtain ⟨⟨w, rest'⟩, hms, rfl⟩ := h
    rw [hms]
    cases w <;> rfl

theorem Component.ofMembers_of_without (hname : name ≠ "type")
    (hfields : ∀ k, (Json.obj ms).kind? = some k → name ∉ k.fields)
    (hms : Json.without name ns = Json.without name ms) (children : Decoder (List Component))
    (accessory : Decoder Component) : ofMembers ns children accessory = ofMembers ms children accessory := by
  have hkind := ComponentKind.ofMembers_congr (Json.get?_of_without hname.symm hms) .message
  unfold ofMembers
  rw [hkind]
  rcases ComponentKind.ofMembers_cases .message ms with ⟨k, hk, hnum⟩ | ⟨n, hn, -⟩ | ⟨hn, -⟩
  · have hother := hfields k (Json.kind?_eq_some_iff.2 hnum)
    rw [hk]
    cases k with
    | actionRow => exact (ActionRow.passes children).decodeShape hother hms _
    | button => exact Button.passes.decodeShape hother hms _
    | textSelectMenu | userSelectMenu | roleSelectMenu | mentionableSelectMenu | channelSelectMenu =>
      exact (SelectMenu.passes _).decodeShape hother hms _
    | textInput => exact TextInput.passes.decodeShape hother hms _
    | «section» => exact (TextSection.passes children accessory).decodeShape hother hms _
    | textDisplay => exact TextDisplay.passes.decodeShape hother hms _
    | thumbnail => exact Thumbnail.passes.decodeShape hother hms _
    | mediaGallery => exact MediaGallery.passes.decodeShape hother hms _
    | file => exact FileDisplay.passes.decodeShape hother hms _
    | separator => exact Separator.passes.decodeShape hother hms _
    | container => exact (Container.passes children).decodeShape hother hms _
    | label | fileUpload => rfl
  · rw [hn]
  · rw [hn]

theorem ModalComponent.ofMembers_of_without (hname : name ≠ "type")
    (hfields : ∀ k, (Json.obj ms).kind? = some k → name ∉ k.fields)
    (hms : Json.without name ns = Json.without name ms) (child : Decoder ModalComponent) :
    ofMembers ns child = ofMembers ms child := by
  have hkind := ComponentKind.ofMembers_congr (Json.get?_of_without hname.symm hms) .modal
  unfold ofMembers
  rw [hkind]
  rcases ComponentKind.ofMembers_cases .modal ms with ⟨k, hk, hnum⟩ | ⟨n, hn, -⟩ | ⟨hn, -⟩
  · have hother := hfields k (Json.kind?_eq_some_iff.2 hnum)
    rw [hk]
    cases k with
    | actionRow => exact (ActionRow.passes _).decodeShape hother hms _
    | label => exact (Label.passes child).decodeShape hother hms _
    | textInput => exact TextInput.passes.decodeShape hother hms _
    | textSelectMenu | userSelectMenu | roleSelectMenu | mentionableSelectMenu | channelSelectMenu =>
      exact (SelectMenu.passes _).decodeShape hother hms _
    | textDisplay => exact TextDisplay.passes.decodeShape hother hms _
    | fileUpload => exact FileUpload.passes.decodeShape hother hms _
    | _ => rfl
  · rw [hn]
  · rw [hn]

end Members

/-! ## Children -/

/-- the keys that children stand under -/
def Json.childKeys : List String := ["accessory", "component", "components"]

theorem Json.ne_type_of_child {key : String} (hkey : key ∈ childKeys) : key ≠ "type" := by
  rintro rfl
  exact absurd hkey (by decide)

theorem ComponentKind.layout_of_mem_fields {k : ComponentKind} {key : String} (hkey : key ∈ Json.childKeys)
    (h : key ∈ k.fields) : k = .actionRow ∨ k = .section ∨ k = .container ∨ k = .label := by
  revert key
  cases k <;> decide

theorem Reader.Blind.decodeShape {α β : Type} {r : Reader α} {key : String} {v w : Json} (h : r.Blind key v w)
    (f : α → β) (before after : Members) :
    r.decodeShape f (before ++ (key, w) :: after) = r.decodeShape f (before ++ (key, v) :: after) := by
  unfold Reader.decodeShape Reader.decodeMembers
  rw [h before after 0]

section Exchanged

variable {γ : Type} {key : String} {v w : Json} (hkey : key ∈ Json.childKeys)

include hkey

/-- a field for no child never asks about a child -/
theorem Reader.blind_of_not_child {α : Type} {name : String} {gap : Gap α} {d : Decoder α}
    (hname : name ∉ Json.childKeys) : (field name gap d).Blind key v w :=
  blind_field fun h => absurd (h ▸ hkey) hname

theorem ActionRow.blind {children : Decoder (List γ)}
    (hc : "components" = key → children.ofValue v = children.ofValue w) : (reader children).Blind key v w :=
  ((blind_of_not_child hkey (by decide)).map _).seq (blind_field hc)

theorem TextSection.blind {children : Decoder (List γ)} {accessory : Decoder γ}
    (hc : "components" = key → children.ofValue v = children.ofValue w)
    (ha : "accessory" = key → accessory.ofValue v = accessory.ofValue w) : (reader children accessory).Blind key v w :=
  (((blind_of_not_child hkey (by decide)).map _).seq (blind_field hc)).seq (blind_field ha)

theorem Container.blind {children : Decoder (List γ)}
    (hc : "components" = key → children.ofValue v = children.ofValue w) : (reader children).Blind key v w :=
  ((((blind_of_not_child hkey (by decide)).map _).seq (blind_of_not_child hkey (by decide))).seq
    (blind_of_not_child hkey (by decide))).seq (blind_field hc)

theorem Label.blind {child : Decoder γ} (hc : "component" = key → child.ofValue v = child.ofValue w) :
    (reader child).Blind key v w :=
  ((((blind_of_not_child hkey (by decide)).map _).seq (blind_of_not_child hkey (by decide))).seq
    (blind_of_not_child hkey (by decide))).seq (blind_field hc)

variable (before after : Members)

/-- a child says nothing about the kind of what it stands in -/
theorem ComponentKind.ofMembers_exchanged (f : Family) :
    ofMembers f (before ++ (key, w) :: after) = ofMembers f (before ++ (key, v) :: after) :=
  ofMembers_congr (Json.get?_of_without (Json.ne_type_of_child hkey).symm (Json.without_exchanged v w)) f

theorem Component.ofMembers_exchanged {children : Decoder (List Component)} {accessory : Decoder Component}
    (hc : "components" = key → children.ofValue v = children.ofValue w)
    (ha : "accessory" = key → accessory.ofValue v = accessory.ofValue w) :
    ofMembers (before ++ (key, w) :: after) children accessory =
      ofMembers (before ++ (key, v) :: after) children accessory := by
  by_cases hfield : ∃ k, (Json.obj (before ++ (key, v) :: after)).kind? = some k ∧ key ∈ k.fields
  · obtain ⟨k, hk, hmem⟩ := hfield
    have hnum := ComponentKind.ofMembers_of_numbered (Json.kind?_eq_some_iff.1 hk) .message
    unfold ofMembers
    rw [ComponentKind.ofMembers_exchanged hkey before after, hnum]
    rcases ComponentKind.layout_of_mem_fields hkey hmem with rfl | rfl | rfl | rfl
    · exact (ActionRow.blind hkey hc).decodeShape _ before after
    · exact (TextSection.blind hkey hc ha).decodeShape _ before after
    · exact (Container.blind hkey hc).decodeShape _ before after
    · rfl
  · refine ofMembers_of_without (Json.ne_type_of_child hkey) (fun k hk hmem => hfield ⟨k, hk, hmem⟩) ?_ children accessory
    exact Json.without_exchanged v w

theorem ModalComponent.ofMembers_exchanged {child : Decoder ModalComponent}
    (hc : "components" = key → (Decoder.list Component.nested).ofValue v = (Decoder.list Component.nested).ofValue w)
    (hl : "component" = key → child.ofValue v = child.ofValue w) :
    ofMembers (before ++ (key, w) :: after) child = ofMembers (before ++ (key, v) :: after) child := by
  by_cases hfield : ∃ k, (Json.obj (before ++ (key, v) :: after)).kind? = some k ∧ key ∈ k.fields
  · obtain ⟨k, hk, hmem⟩ := hfield
    have hnum := ComponentKind.ofMembers_of_numbered (Json.kind?_eq_some_iff.1 hk) .modal
    unfold ofMembers
    rw [ComponentKind.ofMembers_exchanged hkey before after, hnum]
    rcases ComponentKind.layout_of_mem_fields hkey hmem with rfl | rfl | rfl | rfl
    · exact (ActionRow.blind hkey hc).decodeShape _ before after
    · rfl
    · rfl
    · exact (Label.blind hkey hl).decodeShape _ before after
  · refine ofMembers_of_without (Json.ne_type_of_child hkey) (fun k hk hmem => hfield ⟨k, hk, hmem⟩) ?_ child
    exact Json.without_exchanged v w

end Exchanged

/-! ## Trees -/

/-- two values that differ in one component, among all that stand in them: there any members under the name may be put
in, taken out or changed, and no field of the component has this name -/
inductive Json.DifferAt (name : String) : Json → Json → Prop
  | here {ms ns : Members} (hfields : ∀ k, (Json.obj ms).kind? = some k → name ∉ k.fields)
    (h : Json.without name ns = Json.without name ms) : DifferAt name (.obj ms) (.obj ns)
  | child {key : String} {v w : Json} (hkey : key = "accessory" ∨ key = "component") (before after : Members)
    (h : DifferAt name v w) : DifferAt name (.obj (before ++ (key, v) :: after)) (.obj (before ++ (key, w) :: after))
  | item {v w : Json} (us us' : List Json) (before after : Members) (h : DifferAt name v w) :
    DifferAt name (.obj (before ++ ("components", .arr (us ++ v :: us')) :: after))
      (.obj (before ++ ("components", .arr (us ++ w :: us')) :: after))

/-- one more member, in the place of its key, over the one that stood there -/
theorem Json.DifferAt.put {name : String} {ms : Members} (hfields : ∀ k, (Json.obj ms).kind? = some k → name ∉ k.fields)
    (w : Json) : DifferAt name (.obj ms) (.obj (Json.insertMember name w ms)) :=
  .here hfields (Json.without_insertMember name w ms)

theorem Json.DifferAt.put_of_kind {name : String} {ms : Members} {k : ComponentKind} (hk : (Json.obj ms).kind? = some k)
    (hname : name ∉ k.fields) (w : Json) : DifferAt name (.obj ms) (.obj (Json.insertMember name w ms)) := by
  refine .put ?_ w
  intro l hl
  rw [hk] at hl
  cases hl
  exact hname

/-- both values are read alike, in both families -/
theorem Json.DifferAt.decode_eq {name : String} {v w : Json} (hname : name ≠ "type") (h : v.DifferAt name w) :
    Component.decode w = Component.decode v ∧ ModalComponent.decode w = ModalComponent.decode v := by
  induction h with
  | here hfields hms =>
    simp only [Component.decode_obj, ModalComponent.decode_obj]
    exact ⟨Component.ofMembers_of_without hname hfields hms _ _, ModalComponent.ofMembers_of_without hname hfields hms _⟩
  | @child key v w hkey before after h ih =>
    have hmem : key ∈ Json.childKeys := by
      rcases hkey with rfl | rfl <;> decide
    have hne : "components" ≠ key := by
      rcases hkey with rfl | rfl <;> decide
    have hmessage : Component.nested.ofValue v = Component.nested.ofValue w := congrArg nestError ih.1.symm
    have hmodal : ModalComponent.nested.ofValue v = ModalComponent.nested.ofValue w := congrArg nestError ih.2.symm
    simp only [Component.decode_obj, ModalComponent.decode_obj]
    exact ⟨Component.ofMembers_exchanged hmem before after (fun h => absurd h hne) fun _ => hmessage,
      ModalComponent.ofMembers_exchanged hmem before after (fun h => absurd h hne) fun _ => hmodal⟩
  | @item v w us us' before after h ih =>
    have hchild : Component.nested.ofValue v = Component.nested.ofValue w := congrArg nestError ih.1.symm
    have hitems : (Decoder.list Component.nested).ofValue (.arr (us ++ v :: us')) =
        (Decoder.list Component.nested).ofValue (.arr (us ++ w :: us')) := items_exchanged hchild us us'
    simp only [Component.decode_obj, ModalComponent.decode_obj]
    exact ⟨Component.ofMembers_exchanged (by decide) before after (fun _ => hitems) fun h => absurd h (by decide),
      ModalComponent.ofMembers_exchanged (by decide) before after (fun _ => hitems) fun h => absurd h (by decide)⟩

/-! ## Menus -/

theorem MenuKind.componentKind_injective {m n : MenuKind} (h : m.componentKind = n.componentKind) : m = n := by
  have hm := m.menu?_componentKind
  rw [h, n.menu?_componentKind] at hm
  exact (Option.some.inj hm).symm

theorem Component.menu_of_kind {c : Component} {m : MenuKind} (h : c.kind = m.componentKind) :
    ∃ menu, c = .selectMenu menu ∧ menu.kind = m := by
  cases c with
  | selectMenu menu => exact ⟨menu, rfl, MenuKind.componentKind_injective h⟩
  | _ => cases m <;> cases h

theorem ModalComponent.menu_of_kind {c : ModalComponent} {m : MenuKind} (h : c.kind = m.componentKind) :
    ∃ menu, c = .selectMenu menu ∧ menu.kind = m := by
  cases c with
  | selectMenu menu => exact ⟨menu, rfl, MenuKind.componentKind_injective h⟩
  | _ => cases m <;> cases h

/-- what is read is of the kind that `type` names -/
theorem Slot.kind_of_kind? {s : Slot} {k : ComponentKind} {n : Node} (hk : s.value.kind? = some k)
    (hn : s.read = .ok n) : n.kind = k :=
  ComponentKind.code_injective ((Slot.kind_of_read hn).1.unique (Json.kind?_eq_some_iff.1 hk))

theorem Component.menu_of_decode {v : Json} {m : MenuKind} {c : Component} (hk : v.kind? = some m.componentKind)
    (hc : decode v = .ok c) : ∃ menu, c = .selectMenu menu ∧ menu.kind = m := by
  have hread : Slot.read ⟨.message, v⟩ = .ok (.message c) := by
    show (decode v).map _ = _
    rw [hc]
    rfl
  exact menu_of_kind (Slot.kind_of_kind? (s := ⟨.message, v⟩) hk hread)

theorem ModalComponent.menu_of_decode {v : Json} {m : MenuKind} {c : ModalComponent}
    (hk : v.kind? = some m.componentKind) (hc : decode v = .ok c) : ∃ menu, c = .selectMenu menu ∧ menu.kind = m := by
  have hread : Slot.read ⟨.modal, v⟩ = .ok (.modal c) := by
    show (decode v).map _ = _
    rw [hc]
    rfl
  exact menu_of_kind (Slot.kind_of_kind? (s := ⟨.modal, v⟩) hk hread)

/-! ## Main result -/

/-- **Unknown members are invisible.** Two values that differ in one component, at any depth, in members that no field of
it is named after, are read alike in a message and in a modal: as the same component, or with the same refusal, down to
what was found and what was wanted in its place. Among these members is `kind` in a select menu, and of whatever value it
is, the menu that is read is of the kind that `type` names. -/
theorem unknown_members_invisible {name : String} {v w : Json} (hname : name ≠ "type") (h : v.DifferAt name w) :
    Component.decode w = Component.decode v ∧ ModalComponent.decode w = ModalComponent.decode v ∧
    (∀ (m : MenuKind) (ms : Members) (u : Json), (Json.obj ms).kind? = some m.componentKind →
      let put := Json.obj (Json.insertMember "kind" u ms)
      Component.decode put = Component.decode (.obj ms) ∧ ModalComponent.decode put = ModalComponent.decode (.obj ms) ∧
      (∀ c, Component.decode put = .ok c → ∃ menu, c = .selectMenu menu ∧ menu.kind = m) ∧
      (∀ c, ModalComponent.decode put = .ok c → ∃ menu, c = .selectMenu menu ∧ menu.kind = m)) := by
  obtain ⟨hmessage, hmodal⟩ := h.decode_eq hname
  refine ⟨hmessage, hmodal, fun m ms u hm => ?_⟩
  have hfield : "kind" ∉ m.componentKind.fields := by cases m <;> decide
  obtain ⟨hmessage, hmodal⟩ := (Json.DifferAt.put_of_kind hm hfield u).decode_eq (by decide)
  refine ⟨hmessage, hmodal, fun c hc => ?_, fun c hc => ?_⟩
  · exact Component.menu_of_decode hm (hmessage.symm.trans hc)
  · exact ModalComponent.menu_of_decode hm (hmodal.symm.trans hc)

/-- a menu of options in a row, which does not become a menu of channels, and a button in a row, which is refused for
what stands under `disabled` -/
theorem unknown_members_invisible_in_row :
    let menu : Members := [("custom_id", .str "faculty"), ("type", .int 3)]
    let button : Members := [("custom_id", .str "dean"), ("disabled", .str "no"), ("type", .int 2)]
    let row (ms : Members) : Json := .obj [("components", .arr [.obj ms]), ("type", .int 1)]
    "kind" ≠ "type" ∧ (row menu).DifferAt "kind" (row (Json.insertMember "kind" (.str "channel") menu)) ∧
    Component.decode (row (Json.insertMember "kind" (.str "channel") menu)) =
      .ok (.actionRow ⟨none, [.selectMenu (SelectMenu.new "faculty")]⟩) ∧
    (row button).DifferAt "kind" (row (Json.insertMember "kind" (.int 8) button)) ∧
    Component.decode (row (Json.insertMember "kind" (.int 8) button)) =
      .error (.shape (.nested (.shape (.wrongType (.text "no") "a boolean")))) := by
  intro menu button row
  have hmenu : (row menu).DifferAt "kind" (row (Json.insertMember "kind" (.str "channel") menu)) :=
    .item [] [] [] [("type", .int 1)] (.put_of_kind (k := .textSelectMenu) rfl (by decide) _)
  have hbutton : (row button).DifferAt "kind" (row (Json.insertMember "kind" (.int 8) button)) :=
    .item [] [] [] [("type", .int 1)] (.put_of_kind (k := .button) rfl (by decide) _)
  refine ⟨by decide, hmenu, ?_, hbutton, ?_⟩
  · rw [(unknown_members_invisible (by decide) hmenu).1]
    rfl
  · rw [(unknown_members_invisible (by decide) hbutton).1]
    rfl

end InteractionKit
