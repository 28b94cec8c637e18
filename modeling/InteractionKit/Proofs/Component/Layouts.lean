import InteractionKit.Proofs.Component.Decoded
import InteractionKit.Proofs.Json.Children
/-
Layouts over what stands for their children.

A layout that fits with its children unread is, over any decoder for the children, what this decoder makes of them; and
a layout that was read fits. Its own fields are read whatever the children are, so only a child can refuse it then, and
of several the one that is met first. In a section what stands beside the text is met before the text.

- `ActionRow.of_unread`, `Container.of_unread`, `Label.of_unread`, `TextSection.of_unread`: from the frame to the layout.
- `ActionRow.unread_of`, `Container.unread_of`, `Label.unread_of`, `TextSection.unread_of`: from the layout to the frame.
- `Component.decode_obj`, `ModalComponent.decode_obj`: the children of a component are components by themselves.
-/
namespace InteractionKit

open Decoder Reader

variable {γ : Type} {ms : Members}

theorem gap_required : Gap.Empty (⟨none, none⟩ : Gap (List Json)) (⟨none, none⟩ : Gap (List γ)) := .inl ⟨rfl, rfl⟩

theorem gap_defaulted : Gap.Empty (⟨some [], some []⟩ : Gap (List Json)) (⟨some [], some []⟩ : Gap (List γ)) :=
  .inr ⟨rfl, rfl⟩

/-! ## Rows -/

namespace ActionRow

theorem decodeMembers_eq (children : Decoder (List γ)) :
    (reader children).decodeMembers ms =
      ((((optional "id" int32).ofValues (.named ms) 0).map mk).ap
        ((defaulted "components" [] children).ofValues (.named ms) 1)).result := rfl

theorem decodeMembers_congr {c c' : Decoder (List γ)}
    (h : ∀ v, Json.get? "components" (.obj ms) = some v → c.ofValue v = c'.ofValue v) :
    (reader c).decodeMembers ms = (reader c').decodeMembers ms := by
  rw [decodeMembers_eq, decodeMembers_eq, defaulted, defaulted, field_congr h]

theorem of_unread {row : ActionRow Json} (h : (reader (.list .unread)).decodeMembers ms = .ok row) (d : Decoder γ) :
    (reader (.list d)).decodeMembers ms =
      (items d.ofValue (Json.itemsAt "components" (.obj ms))).map fun xs => ⟨row.id, xs⟩ := by
  obtain ⟨f, us, hf, hus, rfl⟩ := seq_eq_done (decodeMembers_eq_ok h)
  obtain ⟨i, hi, rfl⟩ := map_eq_done hf
  have hitems : (defaulted "components" [] (.list d)).ofValues (.named ms) 1 = _ := list_of_unread gap_defaulted hus
  rw [decodeMembers_eq, hi, hitems]
  cases items d.ofValue (Json.itemsAt "components" (.obj ms)) <;> rfl

theorem unread_of {d : Decoder γ} {row : ActionRow γ} (h : (reader (.list d)).decodeMembers ms = .ok row) :
    (∃ frame, (reader (.list .unread)).decodeMembers ms = .ok frame) ∧
      items d.ofValue (Json.itemsAt "components" (.obj ms)) = .ok row.components := by
  obtain ⟨f, xs, hf, hxs, rfl⟩ := seq_eq_done (decodeMembers_eq_ok h)
  obtain ⟨i, hi, rfl⟩ := map_eq_done hf
  obtain ⟨⟨us, hus⟩, hitems⟩ := unread_of_list gap_defaulted hxs
  have hus : (defaulted "components" [] (.list .unread)).ofValues (.named ms) 1 = .done us := hus
  refine ⟨⟨⟨i, us⟩, ?_⟩, hitems⟩
  rw [decodeMembers_eq, hi, hus]
  rfl

end ActionRow

/-! ## Containers -/

namespace Container

theorem decodeMembers_eq (children : Decoder (List γ)) :
    (reader children).decodeMembers ms =
      ((((((optional "id" int32).ofValues (.named ms) 0).map mk).ap
        ((optional "accent_color" uint32).ofValues (.named ms) 1)).ap
        ((optional "spoiler" flag).ofValues (.named ms) 2)).ap
        ((required "components" children).ofValues (.named ms) 3)).result := rfl

theorem decodeMembers_congr {c c' : Decoder (List γ)}
    (h : ∀ v, Json.get? "components" (.obj ms) = some v → c.ofValue v = c'.ofValue v) :
    (reader c).decodeMembers ms = (reader c').decodeMembers ms := by
  rw [decodeMembers_eq, decodeMembers_eq, required, required, field_congr h]

theorem of_unread {box : Container Json} (h : (reader (.list .unread)).decodeMembers ms = .ok box) (d : Decoder γ) :
    (reader (.list d)).decodeMembers ms = (items d.ofValue (Json.itemsAt "components" (.obj ms))).map fun xs =>
      ⟨box.id, box.accentColor, box.spoiler, xs⟩ := by
  obtain ⟨f, us, hf, hus, rfl⟩ := seq_eq_done (decodeMembers_eq_ok h)
  obtain ⟨g, spoiler, hg, hspoiler, rfl⟩ := seq_eq_done hf
  obtain ⟨k, accent, hk, haccent, rfl⟩ := seq_eq_done hg
  obtain ⟨i, hi, rfl⟩ := map_eq_done hk
  have haccent : (optional "accent_color" uint32).ofValues (.named ms) 1 = .done accent := haccent
  have hspoiler : (optional "spoiler" flag).ofValues (.named ms) 2 = .done spoiler := hspoiler
  have hitems : (required "components" (.list d)).ofValues (.named ms) 3 = _ := list_of_unread gap_required hus
  rw [decodeMembers_eq, hi, haccent, hspoiler, hitems]
  cases items d.ofValue (Json.itemsAt "components" (.obj ms)) <;> rfl

theorem unread_of {d : Decoder γ} {box : Container γ} (h : (reader (.list d)).decodeMembers ms = .ok box) :
    (∃ frame, (reader (.list .unread)).decodeMembers ms = .ok frame) ∧
      items d.ofValue (Json.itemsAt "components" (.obj ms)) = .ok box.components := by
  obtain ⟨f, xs, hf, hxs, rfl⟩ := seq_eq_done (decodeMembers_eq_ok h)
  obtain ⟨g, spoiler, hg, hspoiler, rfl⟩ := seq_eq_done hf
  obtain ⟨k, accent, hk, haccent, rfl⟩ := seq_eq_done hg
  obtain ⟨i, hi, rfl⟩ := map_eq_done hk
  have haccent : (optional "accent_color" uint32).ofValues (.named ms) 1 = .done accent := haccent
  have hspoiler : (optional "spoiler" flag).ofValues (.named ms) 2 = .done spoiler := hspoiler
  obtain ⟨⟨us, hus⟩, hitems⟩ := unread_of_list gap_required hxs
  have hus : (required "components" (.list .unread)).ofValues (.named ms) 3 = .done us := hus
  refine ⟨⟨⟨i, accent, spoiler, us⟩, ?_⟩, hitems⟩
  rw [decodeMembers_eq, hi, haccent, hspoiler, hus]
  rfl

end Container

/-! ## Labels -/

namespace Label

theorem decodeMembers_eq (child : Decoder γ) :
    (reader child).decodeMembers ms =
      ((((((optional "id" int32).ofValues (.named ms) 0).map mk).ap
        ((required "label" text).ofValues (.named ms) 1)).ap
        ((optional "description" text).ofValues (.named ms) 2)).ap
        ((required "component" child).ofValues (.named ms) 3)).result := rfl

theorem decodeMembers_congr {c c' : Decoder γ}
    (h : ∀ v, Json.get? "component" (.obj ms) = some v → c.ofValue v = c'.ofValue v) :
    (reader c).decodeMembers ms = (reader c').decodeMembers ms := by
  rw [decodeMembers_eq, decodeMembers_eq]
  exact congrArg (fun r => (Reading.ap _ r).result) (field_congr h)

theorem of_unread {l : Label Json} (h : (reader .unread).decodeMembers ms = .ok l) (d : Decoder γ) :
    Json.get? "component" (.obj ms) = some l.component ∧
      (reader d).decodeMembers ms = (d.ofValue l.component).map fun x => ⟨l.id, l.label, l.description, x⟩ := by
  obtain ⟨f, u, hf, hu, rfl⟩ := seq_eq_done (decodeMembers_eq_ok h)
  obtain ⟨g, description, hg, hdescription, rfl⟩ := seq_eq_done hf
  obtain ⟨k, label, hk, hlabel, rfl⟩ := seq_eq_done hg
  obtain ⟨i, hi, rfl⟩ := map_eq_done hk
  have hlabel : (required "label" text).ofValues (.named ms) 1 = .done label := hlabel
  have hdescription : (optional "description" text).ofValues (.named ms) 2 = .done description := hdescription
  obtain ⟨hget, hvalue⟩ := value_of_unread (d := d) hu
  have hvalue : (required "component" d).ofValues (.named ms) 3 = _ := hvalue
  refine ⟨hget, ?_⟩
  rw [decodeMembers_eq, hi, hlabel, hdescription, hvalue]
  show _ = (d.ofValue u).map _
  cases d.ofValue u <;> rfl

theorem unread_of {d : Decoder γ} {l : Label γ} (h : (reader d).decodeMembers ms = .ok l) :
    (∃ frame, (reader .unread).decodeMembers ms = .ok frame) ∧
      ∃ u, Json.get? "component" (.obj ms) = some u ∧ d.ofValue u = .ok l.component := by
  obtain ⟨f, x, hf, hx, rfl⟩ := seq_eq_done (decodeMembers_eq_ok h)
  obtain ⟨g, description, hg, hdescription, rfl⟩ := seq_eq_done hf
  obtain ⟨k, label, hk, hlabel, rfl⟩ := seq_eq_done hg
  obtain ⟨i, hi, rfl⟩ := map_eq_done hk
  have hlabel : (required "label" text).ofValues (.named ms) 1 = .done label := hlabel
  have hdescription : (optional "description" text).ofValues (.named ms) 2 = .done description := hdescription
  obtain ⟨u, hu, hget, hread⟩ := unread_of_value hx
  have hu : (required "component" .unread).ofValues (.named ms) 3 = .done u := hu
  refine ⟨⟨⟨i, label, description, u⟩, ?_⟩, u, hget, hread⟩
  rw [decodeMembers_eq, hi, hlabel, hdescription, hu]
  rfl

end Label

/-! ## Sections -/

namespace TextSection

theorem decodeMembers_eq (children : Decoder (List γ)) (child : Decoder γ) :
    (reader children child).decodeMembers ms =
      (((((optional "id" int32).ofValues (.named ms) 0).map mk).ap
        ((required "components" children).ofValues (.named ms) 1)).ap
        ((required "accessory" child).ofValues (.named ms) 2)).result := rfl

theorem decodeMembers_congr {c c' : Decoder (List γ)} {d d' : Decoder γ}
    (hc : ∀ v, Json.get? "components" (.obj ms) = some v → c.ofValue v = c'.ofValue v)
    (hd : ∀ v, Json.get? "accessory" (.obj ms) = some v → d.ofValue v = d'.ofValue v) :
    (reader c d).decodeMembers ms = (reader c' d').decodeMembers ms := by
  rw [decodeMembers_eq, decodeMembers_eq, required, required, required, required, field_congr hc, field_congr hd]

/-- of two parts the one with more members still to come was met first -/
theorem result_ap_at {α β δ : Type} (f : α → β → δ) {m n : Nat} (hmn : m < n) (x : Except ReadError α)
    (y : Except ReadError β) :
    (((Reading.done f).ap (.at_ m x)).ap (.at_ n y)).result = y.bind fun b => x.map fun a => f a b := by
  cases x with
  | ok a => cases y <;> rfl
  | error e =>
    cases y with
    | ok b => rfl
    | error e' => simp [Reading.at_, Reading.ap, Reading.result, hmn, Except.bind]

/-- what stands beside the text is met first, as its key comes first in the stored form -/
theorem of_unread (hms : ms.Pairwise fun p q => p.1 < q.1) {s : TextSection Json}
    (h : (reader (.list .unread) .unread).decodeMembers ms = .ok s) (d : Decoder γ) :
    Json.get? "accessory" (.obj ms) = some s.accessory ∧
      (reader (.list d) d).decodeMembers ms = (d.ofValue s.accessory).bind fun x =>
        (items d.ofValue (Json.itemsAt "components" (.obj ms))).map fun xs => ⟨s.id, xs, x⟩ := by
  obtain ⟨f, u, hf, hu, rfl⟩ := seq_eq_done (decodeMembers_eq_ok h)
  obtain ⟨g, us, hg, hus, rfl⟩ := seq_eq_done hf
  obtain ⟨i, hi, rfl⟩ := map_eq_done hg
  have hitems : (required "components" (.list d)).ofValues (.named ms) 1 = _ := list_of_unread gap_required hus
  obtain ⟨hget, hvalue⟩ := value_of_unread (d := d) hu
  have hvalue : (required "accessory" d).ofValues (.named ms) 2 = _ := hvalue
  refine ⟨hget, ?_⟩
  rw [decodeMembers_eq, hi, hitems, hvalue]
  exact result_ap_at _ (Json.membersFrom_lt hms (by decide) hget) _ _

theorem unread_of {d : Decoder γ} {s : TextSection γ} (h : (reader (.list d) d).decodeMembers ms = .ok s) :
    (∃ frame, (reader (.list .unread) .unread).decodeMembers ms = .ok frame) ∧
      items d.ofValue (Json.itemsAt "components" (.obj ms)) = .ok s.components ∧
      ∃ u, Json.get? "accessory" (.obj ms) = some u ∧ d.ofValue u = .ok s.accessory := by
  obtain ⟨f, x, hf, hx, rfl⟩ := seq_eq_done (decodeMembers_eq_ok h)
  obtain ⟨g, xs, hg, hxs, rfl⟩ := seq_eq_done hf
  obtain ⟨i, hi, rfl⟩ := map_eq_done hg
  obtain ⟨⟨us, hus⟩, hitems⟩ := unread_of_list gap_required hxs
  have hus : (required "components" (.list .unread)).ofValues (.named ms) 1 = .done us := hus
  obtain ⟨u, hu, hget, hread⟩ := unread_of_value hx
  have hu : (required "accessory" .unread).ofValues (.named ms) 2 = .done u := hu
  refine ⟨⟨⟨i, us, u⟩, ?_⟩, hitems, u, hget, hread⟩
  rw [decodeMembers_eq, hi, hus, hu]
  rfl

end TextSection

/-! ## Components -/

theorem Reader.decodeShape_congr {α β : Type} {r r' : Reader α} (h : r.decodeMembers ms = r'.decodeMembers ms)
    (f : α → β) : r.decodeShape f ms = r'.decodeShape f ms := by
  unfold Reader.decodeShape
  rw [h]

/-- the children are read as components wherever they stand -/
theorem Component.decode_obj (ms : Members) : decode (.obj ms) = ofMembers ms (.list nested) nested := by
  have hc (v : Json) (hv : Json.get? "components" (.obj ms) = some v) :
      (Decoder.whole fun _ => childrenIn ms).ofValue v = (Decoder.list nested).ofValue v := by
    rw [ofValue_whole, childrenIn_eq hv]
    cases v with
    | arr vs => exact decodeAll_eq_items vs
    | _ => rfl
  have ha (v : Json) (hv : Json.get? "accessory" (.obj ms) = some v) :
      (Decoder.whole fun _ => accessoryIn ms).ofValue v = nested.ofValue v := by
    rw [ofValue_whole, accessoryIn_eq hv]
    rfl
  rw [decode]
  unfold ofMembers
  cases ComponentKind.ofMembers .message ms with
  | error e => rfl
  | ok kind =>
    cases kind with
    | actionRow => exact decodeShape_congr (ActionRow.decodeMembers_congr hc) _
    | «section» => exact decodeShape_congr (TextSection.decodeMembers_congr hc ha) _
    | container => exact decodeShape_congr (Container.decodeMembers_congr hc) _
    | _ => rfl

/-- a component of a modal below another -/
def ModalComponent.nested : Decoder ModalComponent := .whole fun v => nestError (decode v)

/-- the child of a label is read as a component wherever it stands -/
theorem ModalComponent.decode_obj (ms : Members) : decode (.obj ms) = ofMembers ms nested := by
  have hc (v : Json) (hv : Json.get? "component" (.obj ms) = some v) :
      (Decoder.whole fun _ => childIn ms).ofValue v = nested.ofValue v := by
    rw [ofValue_whole, childIn_eq hv]
    rfl
  rw [decode]
  unfold ofMembers
  cases ComponentKind.ofMembers .modal ms with
  | error e => rfl
  | ok kind =>
    cases kind with
    | label => exact decodeShape_congr (Label.decodeMembers_congr hc) _
    | _ => rfl

end InteractionKit
