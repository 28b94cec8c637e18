import InteractionKit.Proofs.Component.Parts
/-
Components are read back from what is written.

A written component carries its number in front of its members. The number alone picks the shape, and the shape takes
the members back; a layout does so once its children are taken back, by induction on the tree. The kind of a menu is in
no member: it comes back because it is in the number.

- `Component.decode_encode`, `ModalComponent.decode_encode`: the trip through the wire, for every tree.
- `component_round_trip`: both families, the written number, and the second trip.
-/
namespace InteractionKit

/-! ## The number -/

section Tagged

variable {α : Type} {r : Reader α} {ms : Members} {a : α}

/-- members as they are stored behind a component's number -/
def storedBehind (k : ComponentKind) (ms : Members) : Members :=
  Json.canonicalMembers [] (member "type" (.int k.code) ++ ms)

theorem canonical_tag (k : ComponentKind) (ms : Members) : (k.tag ms).canonical = .obj (storedBehind k ms) := rfl

theorem get?_storedBehind {ks : List String} (hw : Json.Within ms ks) (hn : ("type" :: ks).Nodup) (k : ComponentKind)
    {key : String} {v : Json} (hv : (key, v) ∈ member "type" (.int k.code) ++ ms) :
    Json.get? key (.obj (storedBehind k ms)) = some v.canonical := by
  have hall : Json.Distinct (member "type" (.int k.code) ++ ms) :=
    ((Json.within_member "type" _).append hw).distinct hn
  rw [storedBehind, Json.get?_canonicalMembers key hall, (Json.get?_eq_some_iff hall).2 hv, Option.map_some]

theorem ComponentKind.code_le (k : ComponentKind) : k.code ≤ 19 := by cases k <;> decide

/-- the kind is told from the number -/
theorem Reader.Undoes.kind_storedBehind (h : r.Undoes ms a) (hn : ("type" :: r.names).Nodup) (k : ComponentKind)
    (family : Family) : ComponentKind.ofMembers family (storedBehind k ms) = .ok k := by
  have hget := get?_storedBehind h.within hn k (List.mem_append_left _ (List.mem_singleton.2 rfl))
  simp only [Json.get?, Option.map_eq_some_iff, Json.canonical] at hget
  obtain ⟨⟨v, rest⟩, hfind, hv⟩ := hget
  cases hv
  have hle := k.code_le
  have hrange : (0 : Int) ≤ k.code ∧ (k.code : Int) ≤ 18446744073709551615 := by omega
  simp only [ComponentKind.ofMembers, hfind, if_pos hrange, Int.toNat_natCast, ComponentKind.ofCode?_code]

/-- the shape takes its members back from behind the number -/
theorem Reader.Undoes.shape_storedBehind {β : Type} (h : r.Undoes ms a) (hn : ("type" :: r.names).Nodup)
    (k : ComponentKind) (f : α → β) : r.decodeShape f (storedBehind k ms) = .ok (f a) := by
  rw [Reader.decodeShape, storedBehind, h.decodeMembers_cons hn]

end Tagged

/-- a function that looks for the first member under a key finds what the key answers -/
theorem first_eq {ρ : Type} {f : Members → ρ} {g : Json → ρ} {key : String} {ms : Members} {v : Json}
    (hf : ∀ k w r, f ((k, w) :: r) = if k = key then g w else f r) (h : Json.get? key (.obj ms) = some v) :
    f ms = g v := by
  induction ms with
  | nil => simp [Json.get?, Json.find] at h
  | cons p ms ih =>
    obtain ⟨k, w⟩ := p
    simp only [Json.get?, Json.find] at h ih
    rw [hf]
    split
    · next hk => rw [if_pos hk] at h; cases h; rfl
    · next hk => rw [if_neg hk] at h; exact ih h

/-! ## Components of messages -/

namespace Component

theorem childrenIn_eq {ms : Members} {v : Json} (h : Json.get? "components" (.obj ms) = some v) :
    childrenIn ms = childrenOf v :=
  first_eq (fun k w r => by rw [childrenIn]) h

theorem accessoryIn_eq {ms : Members} {v : Json} (h : Json.get? "accessory" (.obj ms) = some v) :
    accessoryIn ms = nestError (decode v) :=
  first_eq (g := fun w => nestError (decode w)) (fun k w r => by rw [accessoryIn]) h

/-- the children of a layout are read from behind its number -/
theorem reads_children (k : ComponentKind) {ms : Members} {ks : List String} {vs : List Json} {ys : List Component}
    (hw : Json.Within ms ks) (hn : ("type" :: ks).Nodup) (hv : ("components", .arr vs) ∈ ms)
    (hvs : decodeAll (Json.canonicalItems vs) = .ok ys) :
    (Decoder.whole fun _ => childrenIn (storedBehind k ms)).Reads (.arr vs) ys := by
  have hget := get?_storedBehind hw hn k (List.mem_append_right _ hv)
  rw [Decoder.Reads, Decoder.ofValue_whole, childrenIn_eq hget]
  exact hvs

/-- what stands beside the text of a section is read from behind its number -/
theorem reads_accessory (k : ComponentKind) {ms : Members} {ks : List String} {v : Json} {y : Component}
    (hw : Json.Within ms ks) (hn : ("type" :: ks).Nodup) (hv : ("accessory", v) ∈ ms)
    (hy : decode v.canonical = .ok y) :
    (Decoder.whole fun _ => accessoryIn (storedBehind k ms)).Reads v y := by
  have hget := get?_storedBehind hw hn k (List.mem_append_right _ hv)
  rw [Decoder.Reads, Decoder.ofValue_whole, accessoryIn_eq hget, hy]; rfl

/-- a component of a kind is read as the shape of the kind -/
theorem decode_tag (k : ComponentKind) (ms : Members) :
    decode (k.tag ms).canonical = ofMembers (storedBehind k ms) (.whole fun _ => childrenIn (storedBehind k ms))
      (.whole fun _ => accessoryIn (storedBehind k ms)) := by
  rw [canonical_tag, decode]

/-- a component comes back as its shape makes it, once the shape takes the members back -/
theorem decode_undone {α : Type} {r : Reader α} {ms : Members} {a : α} (k : ComponentKind) (f : α → Component)
    (h : r.Undoes ms a) (hn : ("type" :: r.names).Nodup)
    (hshape : ComponentKind.ofMembers .message (storedBehind k ms) = .ok k →
      ofMembers (storedBehind k ms) (.whole fun _ => childrenIn (storedBehind k ms))
        (.whole fun _ => accessoryIn (storedBehind k ms)) = r.decodeShape f (storedBehind k ms)) :
    decode (k.tag ms).canonical = .ok (f a) := by
  have hkind := h.kind_storedBehind hn k .message
  rw [decode_tag, hshape hkind]
  exact h.shape_storedBehind hn k f

theorem decode_menu {m : SelectMenu} (hm : m.Canonical) (k : MenuKind) :
    decode (k.componentKind.tag m.members).canonical = .ok (.selectMenu { m with kind := k }) := by
  have hn : ("type" :: (SelectMenu.reader k).names).Nodup := by cases k <;> decide
  refine decode_undone k.componentKind .selectMenu (SelectMenu.undoes hm k) hn fun hk => ?_
  rw [ofMembers, hk]
  cases k <;> rfl

mutual
/-- a component is read back with its styles filled in -/
theorem decode_encode : (c : Component) → c.Canonical → decode c.encode.canonical = .ok c.withDefaultStyles
  | .actionRow ⟨i, xs⟩, h => by
    have hc := reads_children .actionRow (ActionRow.within (encodeAll xs) ⟨i, xs⟩) (by decide)
      (by simp [ActionRow.members, member]) (decodeAll_encodeAll xs h)
    have hu := ActionRow.undoes ⟨i, xs⟩ hc
    have hn : ["type", "id", "components"].Nodup := by decide
    rw [encode]
    exact decode_undone .actionRow .actionRow hu hn fun hk => by rw [ofMembers, hk]
  | .textSection ⟨i, xs, x⟩, h => by
    have hw := TextSection.within (encodeAll xs) ⟨i, xs, x⟩ (encode x)
    have hn : ["type", "id", "components", "accessory"].Nodup := by decide
    have hc := reads_children .section hw hn (by simp [TextSection.members, member]) (decodeAll_encodeAll xs h.1)
    have ha := reads_accessory .section hw hn (by simp [TextSection.members, member]) (decode_encode x h.2)
    have hu := TextSection.undoes ⟨i, xs, x⟩ hc ha
    rw [encode]
    exact decode_undone .section .textSection hu hn fun hk => by rw [ofMembers, hk]
  | .container ⟨i, c, s, xs⟩, h => by
    have hn : ["type", "id", "accent_color", "spoiler", "components"].Nodup := by decide
    have hc := reads_children .container (Container.within (encodeAll xs) ⟨i, c, s, xs⟩) hn
      (by simp [Container.members, member]) (decodeAll_encodeAll xs h)
    have hu := Container.undoes ⟨i, c, s, xs⟩ hc
    rw [encode]
    exact decode_undone .container .container hu hn fun hk => by rw [ofMembers, hk]
  | .selectMenu m, h => decode_menu h m.kind
  | .button b, _ => by
    rw [encode]
    exact decode_undone .button .button b.undoes (by decide) fun hk => by rw [ofMembers, hk]
  | .textInput t, _ => by
    rw [encode]
    exact decode_undone .textInput .textInput t.undoes (by decide) fun hk => by rw [ofMembers, hk]
  | .textDisplay t, _ => by
    rw [encode]
    exact decode_undone .textDisplay .textDisplay t.undoes (by decide) fun hk => by rw [ofMembers, hk]
  | .thumbnail t, _ => by
    rw [encode]
    exact decode_undone .thumbnail .thumbnail t.undoes (by decide) fun hk => by rw [ofMembers, hk]
  | .mediaGallery g, _ => by
    rw [encode]
    exact decode_undone .mediaGallery .mediaGallery g.undoes (by decide) fun hk => by rw [ofMembers, hk]
  | .file f, _ => by
    rw [encode]
    exact decode_undone .file .file f.undoes (by decide) fun hk => by rw [ofMembers, hk]
  | .separator s, _ => by
    rw [encode]
    exact decode_undone .separator .separator s.undoes (by decide) fun hk => by rw [ofMembers, hk]
theorem decodeAll_encodeAll : (xs : List Component) → AllCanonical xs →
    decodeAll (Json.canonicalItems (encodeAll xs)) = .ok (withDefaultStylesAll xs)
  | [], _ => rfl
  | x :: xs, h => by
    simp only [encodeAll, Json.canonicalItems, decodeAll, decode_encode x h.1, decodeAll_encodeAll xs h.2]; rfl
end

/-- the children of a layout are the items of a list of components -/
theorem decodeAll_eq_items (vs : List Json) : decodeAll vs = Decoder.items nested.ofValue vs := by
  induction vs with
  | nil => rfl
  | cons v vs ih =>
    have hv : nested.ofValue v = nestError (decode v) := rfl
    cases hd : decode v with
    | error e => simp only [decodeAll, Decoder.items, hv, hd, nestError]
    | ok x => simp only [decodeAll, Decoder.items, hv, hd, nestError, ih]

/-- the written number is that of the kind -/
theorem get?_type_encode (c : Component) : c.encode.get? "type" = some (.int c.kind.code) := by
  cases c <;> simp [encode, kind, ComponentKind.tag, member, Json.get?, Json.find]

end Component

/-! ## Components of modals -/

namespace ModalComponent

theorem childIn_eq {ms : Members} {v : Json} (h : Json.get? "component" (.obj ms) = some v) :
    childIn ms = nestError (decode v) :=
  first_eq (g := fun w => nestError (decode w)) (fun k w r => by rw [childIn]) h

theorem decode_tag (k : ComponentKind) (ms : Members) :
    decode (k.tag ms).canonical = ofMembers (storedBehind k ms) (.whole fun _ => childIn (storedBehind k ms)) := by
  rw [canonical_tag, decode]

theorem decode_undone {α : Type} {r : Reader α} {ms : Members} {a : α} (k : ComponentKind) (f : α → ModalComponent)
    (h : r.Undoes ms a) (hn : ("type" :: r.names).Nodup)
    (hshape : ComponentKind.ofMembers .modal (storedBehind k ms) = .ok k →
      ofMembers (storedBehind k ms) (.whole fun _ => childIn (storedBehind k ms)) =
        r.decodeShape f (storedBehind k ms)) :
    decode (k.tag ms).canonical = .ok (f a) := by
  have hkind := h.kind_storedBehind hn k .modal
  rw [decode_tag, hshape hkind]
  exact h.shape_storedBehind hn k f

theorem decode_menu {m : SelectMenu} (hm : m.Canonical) (k : MenuKind) :
    decode (k.componentKind.tag m.members).canonical = .ok (.selectMenu { m with kind := k }) := by
  have hn : ("type" :: (SelectMenu.reader k).names).Nodup := by cases k <;> decide
  refine decode_undone k.componentKind .selectMenu (SelectMenu.undoes hm k) hn fun hk => ?_
  rw [ofMembers, hk]
  cases k <;> rfl

/-- a component of a modal is read back with its styles filled in -/
theorem decode_encode : (c : ModalComponent) → c.Canonical → decode c.encode.canonical = .ok c.withDefaultStyles
  | .actionRow ⟨i, xs⟩, h => by
    have hc : (Decoder.list Component.nested).Reads (.arr (Component.encodeAll xs))
        (Component.withDefaultStylesAll xs) := by
      have hxs := Component.decodeAll_encodeAll xs h
      rwa [Component.decodeAll_eq_items] at hxs
    have hu := ActionRow.undoes ⟨i, xs⟩ hc
    have hn : ["type", "id", "components"].Nodup := by decide
    rw [encode]
    exact decode_undone .actionRow .actionRow hu hn fun hk => by rw [ofMembers, hk]
  | .label ⟨i, l, d, x⟩, h => by
    have hn : ["type", "id", "label", "description", "component"].Nodup := by decide
    have hmem : ("component", encode x) ∈ Label.members ⟨i, l, d, x⟩ (encode x) := by simp [Label.members, member]
    have hget := get?_storedBehind (Label.within ⟨i, l, d, x⟩ (encode x)) hn .label (List.mem_append_right _ hmem)
    have hc : (Decoder.whole fun _ => childIn (storedBehind .label (Label.members ⟨i, l, d, x⟩ (encode x)))).Reads
        (encode x) x.withDefaultStyles := by
      rw [Decoder.Reads, Decoder.ofValue_whole, childIn_eq hget, decode_encode x h]; rfl
    have hu := Label.undoes ⟨i, l, d, x⟩ hc
    rw [encode]
    exact decode_undone .label .label hu hn fun hk => by rw [ofMembers, hk]
  | .selectMenu m, h => decode_menu h m.kind
  | .textInput t, _ => by
    rw [encode]
    exact decode_undone .textInput .textInput t.undoes (by decide) fun hk => by rw [ofMembers, hk]
  | .textDisplay t, _ => by
    rw [encode]
    exact decode_undone .textDisplay .textDisplay t.undoes (by decide) fun hk => by rw [ofMembers, hk]
  | .fileUpload f, _ => by
    rw [encode]
    exact decode_undone .fileUpload .fileUpload f.undoes (by decide) fun hk => by rw [ofMembers, hk]

theorem get?_type_encode (c : ModalComponent) : c.encode.get? "type" = some (.int c.kind.code) := by
  cases c <;> simp [encode, kind, ComponentKind.tag, member, Json.get?, Json.find]

end ModalComponent

/-! ## Main result -/

/-- a component written, stored and read -/
def Component.relay (c : Component) : Except DecodeError Component := decode c.encode.canonical

/-- a component of a modal written, stored and read -/
def ModalComponent.relay (c : ModalComponent) : Except DecodeError ModalComponent := decode c.encode.canonical

/-- the second trip writes what the first one wrote -/
theorem Component.relay_twice {c : Component} (hc : c.Canonical) :
    (c.relay.bind Component.relay).map Component.encode = .ok c.encode := by
  have hfirst : c.relay = .ok c.withDefaultStyles := Component.decode_encode c hc
  have hsecond : c.withDefaultStyles.relay = .ok c.withDefaultStyles := by
    rw [Component.relay, c.encode_withDefaultStyles]
    exact hfirst
  rw [hfirst, Except.bind, hsecond, Except.map, c.encode_withDefaultStyles]

theorem ModalComponent.relay_twice {c : ModalComponent} (hc : c.Canonical) :
    (c.relay.bind ModalComponent.relay).map ModalComponent.encode = .ok c.encode := by
  have hfirst : c.relay = .ok c.withDefaultStyles := ModalComponent.decode_encode c hc
  have hsecond : c.withDefaultStyles.relay = .ok c.withDefaultStyles := by
    rw [ModalComponent.relay, c.encode_withDefaultStyles]
    exact hfirst
  rw [hfirst, Except.bind, hsecond, Except.map, c.encode_withDefaultStyles]

/-- **Components survive the wire.** Every tree of either family, with canonical channel kinds, is read back with its
unset button styles filled in and nothing else changed; filled in styles make no difference to what is written, so a
second trip writes the same. The written number is that of the kind. The kind of a menu travels in that number alone:
the members are the same for every kind, and behind the number of another kind they are read as a menu of that kind. -/
theorem component_round_trip :
    (∀ c : Component, c.Canonical →
      c.relay = .ok c.withDefaultStyles ∧ (c.relay.bind Component.relay).map Component.encode = .ok c.encode) ∧
    (∀ c : ModalComponent, c.Canonical →
      c.relay = .ok c.withDefaultStyles ∧
        (c.relay.bind ModalComponent.relay).map ModalComponent.encode = .ok c.encode) ∧
    (∀ c : Component, c.encode.get? "type" = some (.int c.kind.code) ∧ c.withDefaultStyles.encode = c.encode) ∧
    (∀ c : ModalComponent, c.encode.get? "type" = some (.int c.kind.code) ∧ c.withDefaultStyles.encode = c.encode) ∧
    ∀ (m : SelectMenu) (k : MenuKind), m.Canonical →
      ({ m with kind := k } : SelectMenu).members = m.members ∧
      Component.decode (k.componentKind.tag m.members).canonical = .ok (.selectMenu { m with kind := k }) ∧
      ModalComponent.decode (k.componentKind.tag m.members).canonical = .ok (.selectMenu { m with kind := k }) := by
  refine ⟨fun c hc => ?_, fun c hc => ?_, fun c => ?_, fun c => ?_, fun m k hm => ?_⟩
  · exact ⟨Component.decode_encode c hc, Component.relay_twice hc⟩
  · exact ⟨ModalComponent.decode_encode c hc, ModalComponent.relay_twice hc⟩
  · exact ⟨c.get?_type_encode, c.encode_withDefaultStyles⟩
  · exact ⟨c.get?_type_encode, c.encode_withDefaultStyles⟩
  · exact ⟨rfl, Component.decode_menu hm k, ModalComponent.decode_menu hm k⟩

/-- a menu of the text channels of a guild -/
def channelMenu : SelectMenu :=
  { SelectMenu.new "where" with kind := .channel, channelTypes := [.guildText, .unknown 99] }

/-- a box with a button without a style, three levels deep, beside a menu -/
def styledLate : Component :=
  .container (.new [
    .actionRow (.new [.button { Button.blank with customId := some "again" }, .selectMenu channelMenu]),
    .textSection ⟨none, [.textDisplay (.new "hello")], .button Button.blank⟩])

/-- a label around an older row with a button without a style -/
def styledLateModal : ModalComponent := .label (.new "pick" (.actionRow (.new [.button Button.blank])))

theorem channelMenu_canonical : channelMenu.Canonical := by
  intro k hk
  rcases List.mem_cons.1 hk with rfl | hk
  · rfl
  · rw [List.mem_singleton.1 hk]; rfl

theorem component_round_trip_nested :
    styledLate.Canonical ∧ styledLateModal.Canonical ∧ channelMenu.Canonical ∧
    styledLate.relay = .ok (.container (.new [
      .actionRow (.new [.button { Button.blank with customId := some "again", style := some .primary },
        .selectMenu channelMenu]),
      .textSection ⟨none, [.textDisplay (.new "hello")], .button { Button.blank with style := some .primary }⟩])) ∧
    styledLateModal.relay =
      .ok (.label (.new "pick" (.actionRow (.new [.button { Button.blank with style := some .primary }])))) ∧
    Component.decode (ComponentKind.roleSelectMenu.tag channelMenu.members).canonical =
      .ok (.selectMenu { channelMenu with kind := .role }) := by
  have hc : styledLate.Canonical := ⟨⟨trivial, channelMenu_canonical, trivial⟩, ⟨⟨trivial, trivial⟩, trivial⟩, trivial⟩
  have hm : styledLateModal.Canonical := ⟨trivial, trivial⟩
  exact ⟨hc, hm, channelMenu_canonical, (component_round_trip.1 styledLate hc).1,
    (component_round_trip.2.1 styledLateModal hm).1,
    (component_round_trip.2.2.2.2 channelMenu .role channelMenu_canonical).2.1⟩

end InteractionKit
