import InteractionKit.Proofs.Component.Layouts
/-
What the number of a component decides.

The number under `type` is looked at before any field. It alone decides whether a value is refused for its number, and
with which refusal; after that the fields fit or they do not, and what is read is of the kind that the number stands for.
A kind that both families have is read from the same fields in both.

- `Slot.Goes`, `Slot.goes`: the ways that a value can go.
- `SameRecord`: one record, as a component of a message and of a modal.
- `decoding_classified`: each outcome by the number, and both families alike where they share a kind.
-/
namespace InteractionKit

open Reader

/-! ## Places -/

/-- whether a component of the kind may stand in the family -/
def Family.has : Family → ComponentKind → Bool
  | .message => ComponentKind.isMessage
  | .modal => ComponentKind.isModal

/-- a component of either family -/
inductive Node where
  | message (c : Component)
  | modal (c : ModalComponent)

def Node.kind : Node → ComponentKind
  | .message c => c.kind
  | .modal c => c.kind

/-- a value, and the family that it is read in -/
structure Slot where
  family : Family
  value : Json

def Slot.read (s : Slot) : Except DecodeError Node :=
  match s.family with
  | .message => (Component.decode s.value).map .message
  | .modal => (ModalComponent.decode s.value).map .modal

/-! ## Numbers -/

/-- the value is an object with the number, one of 64 bits, under `type` -/
def Json.Numbered (v : Json) (n : Nat) : Prop := v.get? "type" = some (.int n) ∧ n < 2 ^ 64

theorem Json.Numbered.unique {v : Json} {m n : Nat} (hm : v.Numbered m) (hn : v.Numbered n) : m = n := by
  have h : some (Json.int m) = some (Json.int n) := hm.1.symm.trans hn.1
  simpa only [Option.some.injEq, Json.int.injEq, Int.natCast_inj] using h

namespace ComponentKind

theorem code_injective {k l : ComponentKind} (h : k.code = l.code) : k = l := by
  have hk := ofCode?_code k
  rw [h, ofCode?_code] at hk
  exact (Option.some.inj hk).symm

/-- the kind is told, or its number is unknown, or there is no number -/
theorem ofMembers_cases (f : Family) (ms : Members) :
    (∃ k, ofMembers f ms = .ok k ∧ (Json.obj ms).Numbered k.code) ∨
      (∃ n, ofMembers f ms = .error (.unknownKind f n) ∧ (Json.obj ms).Numbered n ∧ ∀ k : ComponentKind, k.code ≠ n) ∨
      (ofMembers f ms = .error (.untyped f) ∧ ∀ n, ¬ (Json.obj ms).Numbered n) := by
  unfold ofMembers
  split
  · next n rest hfind =>
    have hget := Json.get?_of_find hfind
    split
    · next hn =>
      have hcast : (n.toNat : Int) = n := Int.toNat_of_nonneg hn.1
      have hnum : (Json.obj ms).Numbered n.toNat := ⟨by rw [hcast, hget], by omega⟩
      split
      · next k hk => exact .inl ⟨k, rfl, by rwa [code_of_ofCode? hk]⟩
      · next hk =>
        refine .inr (.inl ⟨n.toNat, rfl, hnum, ?_⟩)
        rintro k hcode
        rw [← hcode, ofCode?_code] at hk
        cases hk
    · next hn =>
      refine .inr (.inr ⟨rfl, ?_⟩)
      rintro m ⟨hm, hlt⟩
      have hnm : n = m := by simpa using hget.symm.trans hm
      omega
  · next hfind =>
    refine .inr (.inr ⟨rfl, ?_⟩)
    rintro m ⟨hm, -⟩
    rw [Json.get?, Option.map_eq_some_iff] at hm
    obtain ⟨⟨v, rest⟩, hmem, rfl⟩ := hm
    exact hfind m rest hmem

end ComponentKind

/-! ## Fields of a kind -/

section Shapes

variable {α β : Type} {kind : β → ComponentKind} {k : ComponentKind} {ms : Members}

/-- a component of the kind, or the fields do not fit -/
def OfKind (kind : β → ComponentKind) (k : ComponentKind) (x : Except DecodeError β) : Prop :=
  (∃ b, x = .ok b ∧ kind b = k) ∨ ∃ e, x = .error (.shape e)

theorem Reader.Ensures.ofKind {r : Reader α} {f : α → β} (h : r.Ensures fun a => kind (f a) = k) :
    OfKind kind k (r.decodeShape f ms) := by
  unfold Reader.decodeShape
  cases hr : r.decodeMembers ms with
  | ok a => exact .inl ⟨f a, rfl, h.decodeMembers hr⟩
  | error e => exact .inr ⟨e, rfl⟩

end Shapes

theorem SelectMenu.ensures_kind (k : MenuKind) : (reader k).Ensures fun m => m.kind = k := by
  -- ten fields stand behind the start
  iterate 10 refine .pass ?_
  refine Ensures.map (ensures_true _) ?_
  intros
  rfl

theorem Component.ofMembers_of_kind {ms : Members} {k : ComponentKind} (h : ComponentKind.ofMembers .message ms = .ok k)
    (children : Decoder (List Component)) (accessory : Decoder Component) :
    (k.isMessage = true ∧ OfKind kind k (ofMembers ms children accessory)) ∨
      (k.isMessage = false ∧ ofMembers ms children accessory = .error (.foreignKind .message k)) := by
  have hmenu (m : MenuKind) : OfKind kind m.componentKind ((SelectMenu.reader m).decodeShape .selectMenu ms) :=
    Ensures.ofKind fun _ _ _ hm => congrArg MenuKind.componentKind (SelectMenu.ensures_kind m hm)
  unfold ofMembers
  rw [h]
  cases k with
  | label | fileUpload => exact .inr ⟨rfl, rfl⟩
  | textSelectMenu | userSelectMenu | roleSelectMenu | mentionableSelectMenu | channelSelectMenu =>
    exact .inl ⟨rfl, hmenu _⟩
  | _ => exact .inl ⟨rfl, Ensures.ofKind fun _ _ _ _ => rfl⟩

theorem ModalComponent.ofMembers_of_kind {ms : Members} {k : ComponentKind}
    (h : ComponentKind.ofMembers .modal ms = .ok k) (child : Decoder ModalComponent) :
    (k.isModal = true ∧ OfKind kind k (ofMembers ms child)) ∨
      (k.isModal = false ∧ ofMembers ms child = .error (.foreignKind .modal k)) := by
  have hmenu (m : MenuKind) : OfKind kind m.componentKind ((SelectMenu.reader m).decodeShape .selectMenu ms) :=
    Ensures.ofKind fun _ _ _ hm => congrArg MenuKind.componentKind (SelectMenu.ensures_kind m hm)
  unfold ofMembers
  rw [h]
  cases k with
  | actionRow | label | textInput | textDisplay | fileUpload => exact .inl ⟨rfl, Ensures.ofKind fun _ _ _ _ => rfl⟩
  | textSelectMenu | userSelectMenu | roleSelectMenu | mentionableSelectMenu | channelSelectMenu =>
    exact .inl ⟨rfl, hmenu _⟩
  | _ => exact .inr ⟨rfl, rfl⟩

/-! ## Ways to go -/

/-- the ways that a value can go, by its number -/
inductive Slot.Goes (s : Slot) : Except DecodeError Node → Prop
  | untyped (h : ∀ n, ¬ s.value.Numbered n) : Goes s (.error (.untyped s.family))
  | unknown {n : Nat} (h : s.value.Numbered n) (hn : ∀ k : ComponentKind, k.code ≠ n) :
    Goes s (.error (.unknownKind s.family n))
  | foreign {k : ComponentKind} (h : s.value.Numbered k.code) (hk : s.family.has k = false) :
    Goes s (.error (.foreignKind s.family k))
  | misfit {k : ComponentKind} (h : s.value.Numbered k.code) (hk : s.family.has k = true) (e : ReadError) :
    Goes s (.error (.shape e))
  | fits {c : Node} (h : s.value.Numbered c.kind.code) (hk : s.family.has c.kind = true) : Goes s (.ok c)

namespace Slot

/-- members go by their number, whatever is read once their kind is told -/
theorem goes_of_members {f : Family} {ms : Members} {α : Type} {kind : α → ComponentKind} {node : α → Node}
    (hnode : ∀ a, (node a).kind = kind a) {x : Except DecodeError α}
    (hrefused : ∀ e, ComponentKind.ofMembers f ms = .error e → x = .error e)
    (hkind : ∀ k, ComponentKind.ofMembers f ms = .ok k →
      (f.has k = true ∧ OfKind kind k x) ∨ (f.has k = false ∧ x = .error (.foreignKind f k))) :
    Goes ⟨f, .obj ms⟩ (x.map node) := by
  rcases ComponentKind.ofMembers_cases f ms with ⟨k, hk, hnum⟩ | ⟨n, hn, hnum, hne⟩ | ⟨hn, hnum⟩
  · rcases hkind k hk with ⟨hhas, ⟨a, rfl, rfl⟩ | ⟨e, rfl⟩⟩ | ⟨hhas, rfl⟩
    · rw [← hnode a] at hnum hhas
      exact .fits hnum hhas
    · exact .misfit hnum hhas e
    · exact .foreign hnum hhas
  · rw [hrefused _ hn]
    exact .unknown hnum hne
  · rw [hrefused _ hn]
    exact .untyped hnum

theorem goes_message (v : Json) : Goes ⟨.message, v⟩ ((Component.decode v).map .message) := by
  cases v with
  | obj ms =>
    rw [Component.decode_obj]
    refine goes_of_members (fun _ => rfl) (fun e he => ?_) fun k hk => Component.ofMembers_of_kind hk _ _
    rw [Component.ofMembers, he]
  | _ => exact .untyped fun n hn => by cases hn.1

theorem goes_modal (v : Json) : Goes ⟨.modal, v⟩ ((ModalComponent.decode v).map .modal) := by
  cases v with
  | obj ms =>
    rw [ModalComponent.decode_obj]
    refine goes_of_members (fun _ => rfl) (fun e he => ?_) fun k hk => ModalComponent.ofMembers_of_kind hk _
    rw [ModalComponent.ofMembers, he]
  | _ => exact .untyped fun n hn => by cases hn.1

/-- a value goes one of the ways -/
theorem goes : (s : Slot) → s.Goes s.read
  | ⟨.message, v⟩ => goes_message v
  | ⟨.modal, v⟩ => goes_modal v

end Slot

/-! ## Kinds of both families -/

/-- one record, as a component of a message and of a modal -/
inductive SameRecord : Component → ModalComponent → Prop
  | actionRow (row : ActionRow Component) : SameRecord (.actionRow row) (.actionRow row)
  | textInput (input : TextInput) : SameRecord (.textInput input) (.textInput input)
  | selectMenu (menu : SelectMenu) : SameRecord (.selectMenu menu) (.selectMenu menu)
  | textDisplay (text : TextDisplay) : SameRecord (.textDisplay text) (.textDisplay text)

theorem SameRecord.encode_eq {c : Component} {m : ModalComponent} (h : SameRecord c m) : c.encode = m.encode := by
  cases h with
  | actionRow row =>
    obtain ⟨i, xs⟩ := row
    rw [Component.encode, ModalComponent.encode]
  | _ => rw [Component.encode, ModalComponent.encode]

/-- read as one record, or refused for one fault of the fields -/
def Alike (x : Except DecodeError Component) (y : Except DecodeError ModalComponent) : Prop :=
  (∃ c m, x = .ok c ∧ y = .ok m ∧ SameRecord c m) ∨ ∃ e, x = .error (.shape e) ∧ y = .error (.shape e)

theorem Reader.alike {α : Type} (r : Reader α) {f : α → Component} {g : α → ModalComponent}
    (h : ∀ a, SameRecord (f a) (g a)) (ms : Members) : Alike (r.decodeShape f ms) (r.decodeShape g ms) := by
  unfold Reader.decodeShape
  cases r.decodeMembers ms with
  | ok a => exact .inl ⟨f a, g a, rfl, rfl, h a⟩
  | error e => exact .inr ⟨e, rfl, rfl⟩

theorem ComponentKind.ofMembers_of_numbered {ms : Members} {k : ComponentKind} (h : (Json.obj ms).Numbered k.code)
    (f : Family) : ofMembers f ms = .ok k := by
  rcases ofMembers_cases f ms with ⟨l, hl, hnum⟩ | ⟨n, -, hnum, hne⟩ | ⟨-, hnum⟩
  · rw [hl, code_injective (hnum.unique h)]
  · exact absurd (h.unique hnum) (hne k)
  · exact absurd h (hnum _)

/-- a kind of both families is read from the same fields in both -/
theorem alike_of_both {v : Json} {k : ComponentKind} (h : v.Numbered k.code) (hmessage : k.isMessage = true)
    (hmodal : k.isModal = true) : Alike (Component.decode v) (ModalComponent.decode v) := by
  cases v with
  | obj ms =>
    rw [Component.decode_obj, ModalComponent.decode_obj, Component.ofMembers, ModalComponent.ofMembers,
      ComponentKind.ofMembers_of_numbered h, ComponentKind.ofMembers_of_numbered h]
    cases k with
    | actionRow => exact Reader.alike _ .actionRow ms
    | textInput => exact Reader.alike _ .textInput ms
    | textDisplay => exact Reader.alike _ .textDisplay ms
    | textSelectMenu | userSelectMenu | roleSelectMenu | mentionableSelectMenu | channelSelectMenu =>
      exact Reader.alike _ .selectMenu ms
    | label | fileUpload => cases hmessage
    | _ => cases hmodal
  | _ => cases h.1

/-! ## Each outcome by the number -/

namespace Slot

variable {s : Slot} {f : Family}

theorem read_untyped_iff : s.read = .error (.untyped f) ↔ f = s.family ∧ ∀ n, ¬ s.value.Numbered n := by
  have hgoes := s.goes
  constructor
  · intro h
    rw [h] at hgoes
    cases hgoes with
    | untyped hnum => exact ⟨rfl, hnum⟩
  · rintro ⟨rfl, hnum⟩
    generalize s.read = x at hgoes ⊢
    cases hgoes with
    | untyped => rfl
    | unknown h => exact absurd h (hnum _)
    | foreign h => exact absurd h (hnum _)
    | misfit h => exact absurd h (hnum _)
    | fits h => exact absurd h (hnum _)

theorem read_unknown_iff {n : Nat} : s.read = .error (.unknownKind f n) ↔
    f = s.family ∧ s.value.Numbered n ∧ ∀ k : ComponentKind, k.code ≠ n := by
  have hgoes := s.goes
  constructor
  · intro h
    rw [h] at hgoes
    cases hgoes with
    | unknown hnum hn => exact ⟨rfl, hnum, hn⟩
  · rintro ⟨rfl, hnum, hn⟩
    generalize s.read = x at hgoes ⊢
    cases hgoes with
    | untyped h => exact absurd hnum (h n)
    | unknown h => rw [h.unique hnum]
    | foreign h => exact absurd (h.unique hnum) (hn _)
    | misfit h => exact absurd (h.unique hnum) (hn _)
    | fits h => exact absurd (h.unique hnum) (hn _)

theorem read_foreign_iff {k : ComponentKind} : s.read = .error (.foreignKind f k) ↔
    f = s.family ∧ s.value.Numbered k.code ∧ s.family.has k = false := by
  have hgoes := s.goes
  constructor
  · intro h
    rw [h] at hgoes
    cases hgoes with
    | foreign hnum hk => exact ⟨rfl, hnum, hk⟩
  · rintro ⟨rfl, hnum, hk⟩
    -- a number stands for one kind, which the family lacks
    have hone {l : ComponentKind} (hl : s.value.Numbered l.code) : l = k :=
      ComponentKind.code_injective (hl.unique hnum)
    generalize s.read = x at hgoes ⊢
    cases hgoes with
    | untyped h => exact absurd hnum (h _)
    | unknown h hn => exact absurd (hnum.unique h) (hn k)
    | foreign h => rw [hone h]
    | misfit h hhas => simp [hone h, hk] at hhas
    | fits h hhas => simp [hone h, hk] at hhas

theorem read_of_has {k : ComponentKind} (hnum : s.value.Numbered k.code) (hk : s.family.has k = true) :
    (∃ c, s.read = .ok c ∧ c.kind = k) ∨ ∃ e, s.read = .error (.shape e) := by
  have hgoes := s.goes
  have hone {l : ComponentKind} (hl : s.value.Numbered l.code) : l = k :=
    ComponentKind.code_injective (hl.unique hnum)
  generalize s.read = x at hgoes ⊢
  cases hgoes with
  | untyped h => exact absurd hnum (h _)
  | unknown h hn => exact absurd (hnum.unique h) (hn k)
  | foreign h hhas => simp [hone h, hk] at hhas
  | misfit _ _ e => exact .inr ⟨e, rfl⟩
  | fits h => exact .inl ⟨_, rfl, hone h⟩

theorem kind_of_read {c : Node} (h : s.read = .ok c) : s.value.Numbered c.kind.code ∧ s.family.has c.kind = true := by
  have hgoes := s.goes
  rw [h] at hgoes
  cases hgoes with
  | fits hnum hk => exact ⟨hnum, hk⟩

end Slot

/-- No number, a number that stands for nothing, a kind of the other family: each is told exactly, before any field. Else
a component of the kind is read, or its fields do not fit; and where both families have the kind, they agree. -/
theorem decoding_classified (s : Slot) :
    (∀ f, s.read = .error (.untyped f) ↔ f = s.family ∧ ∀ n, ¬ s.value.Numbered n) ∧
    (∀ f n, s.read = .error (.unknownKind f n) ↔
      f = s.family ∧ s.value.Numbered n ∧ ∀ k : ComponentKind, k.code ≠ n) ∧
    (∀ f k, s.read = .error (.foreignKind f k) ↔
      f = s.family ∧ s.value.Numbered k.code ∧ s.family.has k = false) ∧
    (∀ k : ComponentKind, s.value.Numbered k.code → s.family.has k = true →
      (∃ c, s.read = .ok c ∧ c.kind = k) ∨ ∃ e, s.read = .error (.shape e)) ∧
    (∀ c, s.read = .ok c → s.value.Numbered c.kind.code ∧ s.family.has c.kind = true) ∧
    (∀ k : ComponentKind, s.value.Numbered k.code → k.isMessage = true → k.isModal = true →
      (∃ c m, Component.decode s.value = .ok c ∧ ModalComponent.decode s.value = .ok m ∧ SameRecord c m ∧
        c.encode = m.encode) ∨
      ∃ e, Component.decode s.value = .error (.shape e) ∧ ModalComponent.decode s.value = .error (.shape e)) := by
  refine ⟨fun f => Slot.read_untyped_iff, fun f n => Slot.read_unknown_iff, fun f k => Slot.read_foreign_iff,
    fun k hnum hk => Slot.read_of_has hnum hk, fun c hc => Slot.kind_of_read hc, ?_⟩
  intro k hnum hmessage hmodal
  rcases alike_of_both hnum hmessage hmodal with ⟨c, m, hc, hm, hsame⟩ | ⟨e, hc, hm⟩
  · exact .inl ⟨c, m, hc, hm, hsame, hsame.encode_eq⟩
  · exact .inr ⟨e, hc, hm⟩

end InteractionKit
