import InteractionKit.Component.Limits
import InteractionKit.Proofs.Component.Nesting
import InteractionKit.Proofs.Component.ReadBack
/-
The first component with too many children.

Three kinds of components are limited in what they may hold. A tree is looked through in the order of the document,
every component before what stands in it and what stands beside a text after the text, and the look ends at the first
component over its limit. So a tree passes just when every component in it keeps its limit, at whatever depth, and
otherwise the answer tells of the first that does not. The wire makes no difference, for it changes no shape.

- `ComponentKind.limit?`, `Component.held`: how many children a kind may hold, and how many a component holds.
- `Component.Exceeds`: what a component by itself is refused for.
- `Component.preorder`: all that stands in a tree, in the order of the document.
- `Component.mem_preorder_iff`: nothing that stands in the tree is left out.
- `Component.validate_eq`: the look through a tree goes along its preorder.
- `Component.validate_retouch`: a touch on buttons and menus changes no answer.
- `validate_first_offender`: when a tree passes, and what it is refused for.
-/
namespace InteractionKit

/-! ## One component by itself -/

/-- how many children a kind may hold, if that is limited -/
def ComponentKind.limit? : ComponentKind → Option Nat
  | .actionRow => some 5
  | .section => some 3
  | .mediaGallery => some 10
  | _ => none

namespace Component

/-- how many children stand in a component; what stands beside a text is none of them -/
def held : Component → Nat
  | .actionRow row => row.components.length
  | .textSection s => s.components.length
  | .mediaGallery g => g.items.length
  | .container box => box.components.length
  | _ => 0

/-- what a component is refused for by itself -/
structure Exceeds (c : Component) (e : TooMany) : Prop where
  kind : e.kind = c.kind
  count : e.count = c.held
  limit : c.kind.limit? = some e.limit
  over_limit : e.limit < e.count

/-- the look at one component -/
def check (c : Component) : Except TooMany Unit := c.kind.limit?.elim (.ok ()) (checkCount c.kind c.held)

theorem checkCount_eq_error_iff {k : ComponentKind} {n limit : Nat} {e : TooMany} :
    checkCount k n limit = .error e ↔ limit < n ∧ e = ⟨k, n, limit⟩ := by
  unfold checkCount
  split
  · next h => simp [h, eq_comm]
  · next h => simp [h]

theorem checkCount_eq_ok_iff {k : ComponentKind} {n limit : Nat} : checkCount k n limit = .ok () ↔ n ≤ limit := by
  unfold checkCount
  split
  · next h => simp [h]
  · next h => simp [Nat.le_of_not_lt h]

theorem check_eq_error_iff {c : Component} {e : TooMany} : c.check = .error e ↔ c.Exceeds e := by
  unfold check
  cases hlimit : c.kind.limit? with
  | none =>
    refine iff_of_false nofun fun h => ?_
    rw [h.limit] at hlimit
    cases hlimit
  | some n =>
    rw [Option.elim_some, checkCount_eq_error_iff]
    constructor
    · rintro ⟨hover, rfl⟩
      exact ⟨rfl, rfl, hlimit, hover⟩
    · intro h
      obtain rfl : n = e.limit := Option.some.inj (hlimit.symm.trans h.limit)
      exact ⟨h.count ▸ h.over_limit, by rw [← h.kind, ← h.count]⟩

theorem check_eq_ok_iff {c : Component} : c.check = .ok () ↔ ∀ e, ¬ c.Exceeds e := by
  simp only [← check_eq_error_iff]
  cases c.check <;> simp

/-! ## The order of the document -/

/-- what stands in a component, first to last; what stands beside a text comes behind it -/
def parts : Component → List Component
  | .actionRow row => row.components
  | .textSection s => s.components ++ [s.accessory]
  | .container box => box.components
  | _ => []

mutual
/-- a component and all that stands in it, each before its parts -/
def preorder : Component → List Component
  | .actionRow ⟨i, xs⟩ => .actionRow ⟨i, xs⟩ :: preorderAll xs
  | .textSection ⟨i, xs, x⟩ => .textSection ⟨i, xs, x⟩ :: (preorderAll xs ++ preorder x)
  | .container ⟨i, c, s, xs⟩ => .container ⟨i, c, s, xs⟩ :: preorderAll xs
  | .button b => [.button b]
  | .selectMenu m => [.selectMenu m]
  | .textInput t => [.textInput t]
  | .textDisplay t => [.textDisplay t]
  | .thumbnail t => [.thumbnail t]
  | .mediaGallery g => [.mediaGallery g]
  | .file f => [.file f]
  | .separator s => [.separator s]
def preorderAll : List Component → List Component
  | [] => []
  | x :: xs => preorder x ++ preorderAll xs
end

theorem preorderAll_eq_flatMap (xs : List Component) : preorderAll xs = xs.flatMap preorder := by
  induction xs with
  | nil => rfl
  | cons x xs ih => rw [preorderAll, ih, List.flatMap_cons]

theorem preorder_eq (c : Component) : c.preorder = c :: c.parts.flatMap preorder := by
  cases c with
  | actionRow row => rw [preorder, preorderAll_eq_flatMap]; rfl
  | textSection s =>
    rw [preorder, preorderAll_eq_flatMap, parts, List.flatMap_append, List.flatMap_singleton]
  | container box => rw [preorder, preorderAll_eq_flatMap]; rfl
  | _ => rfl

theorem mem_preorder_iff_parts {c x : Component} : x ∈ c.preorder ↔ x = c ∨ ∃ d ∈ c.parts, x ∈ d.preorder := by
  rw [preorder_eq, List.mem_cons, List.mem_flatMap]

/-- the parts are the children, in another order -/
theorem mem_children_iff {c : Component} {n : Node} :
    n ∈ Node.children (.message c) ↔ ∃ d ∈ c.parts, n = .message d := by
  cases c <;> simp [Node.children, parts, eq_comm, or_comm]

theorem holds_part {c d x : Component} (hd : d ∈ c.parts) (h : Node.Holds (.message d) (.message x)) :
    Node.Holds (.message c) (.message x) :=
  .head (mem_children_iff.2 ⟨d, hd, rfl⟩) h

mutual
theorem holds_of_mem_preorder : (c : Component) → {x : Component} → x ∈ c.preorder →
    Node.Holds (.message c) (.message x)
  | .actionRow ⟨i, xs⟩, x, h => by
    rcases List.mem_cons.1 h with rfl | h
    · exact .refl
    · obtain ⟨d, hd, hdx⟩ := holds_of_mem_preorderAll xs h
      exact holds_part hd hdx
  | .textSection ⟨i, xs, y⟩, x, h => by
    rcases List.mem_cons.1 h with rfl | h
    · exact .refl
    · rcases List.mem_append.1 h with h | h
      · obtain ⟨d, hd, hdx⟩ := holds_of_mem_preorderAll xs h
        exact holds_part (List.mem_append_left _ hd) hdx
      · exact holds_part (List.mem_append_right _ (List.mem_singleton.2 rfl)) (holds_of_mem_preorder y h)
  | .container ⟨i, c, s, xs⟩, x, h => by
    rcases List.mem_cons.1 h with rfl | h
    · exact .refl
    · obtain ⟨d, hd, hdx⟩ := holds_of_mem_preorderAll xs h
      exact holds_part hd hdx
  | .button _, x, h | .selectMenu _, x, h | .textInput _, x, h | .textDisplay _, x, h | .thumbnail _, x, h
  | .mediaGallery _, x, h | .file _, x, h | .separator _, x, h => by
    rw [List.mem_singleton.1 h]
    exact .refl
theorem holds_of_mem_preorderAll : (xs : List Component) → {x : Component} → x ∈ preorderAll xs →
    ∃ d ∈ xs, Node.Holds (.message d) (.message x)
  | [], x, h => by cases h
  | y :: xs, x, h => by
    rcases List.mem_append.1 h with h | h
    · exact ⟨y, List.mem_cons_self, holds_of_mem_preorder y h⟩
    · obtain ⟨d, hd, hdx⟩ := holds_of_mem_preorderAll xs h
      exact ⟨d, List.mem_cons_of_mem _ hd, hdx⟩
end

/-- the order of the document leaves out nothing that stands in the tree -/
theorem mem_preorder_iff {c x : Component} : x ∈ c.preorder ↔ Node.Holds (.message c) (.message x) := by
  refine ⟨holds_of_mem_preorder c, fun h => ?_⟩
  -- by induction on the way down to `x`, from its lower end
  have hdown : ∀ n, Node.Holds n (.message x) → ∀ c, n = .message c → x ∈ c.preorder := by
    intro n hn
    induction hn using Relation.ReflTransGen.head_induction_on with
    | refl =>
      intro c hc
      cases hc
      exact mem_preorder_iff_parts.2 (.inl rfl)
    | head hstep _ ih =>
      intro c hc
      subst hc
      obtain ⟨d, hd, hnode⟩ := mem_children_iff.1 hstep
      exact mem_preorder_iff_parts.2 (.inr ⟨d, hd, ih d hnode⟩)
  exact hdown _ h c rfl

/-! ## The look through a tree -/

/-- components looked at by themselves, one after the other, up to the first that is refused -/
def checkAll (cs : List Component) : Except TooMany Unit := (Decoder.items check cs).map fun _ => ()

theorem checkAll_cons (c : Component) (cs : List Component) :
    checkAll (c :: cs) = c.check.bind fun _ => checkAll cs := by
  unfold checkAll
  rw [Decoder.items]
  cases c.check with
  | error e => rfl
  | ok _ => cases Decoder.items check cs <;> rfl

theorem checkAll_append (xs ys : List Component) :
    checkAll (xs ++ ys) = (checkAll xs).bind fun _ => checkAll ys := by
  induction xs with
  | nil => rfl
  | cons x xs ih =>
    rw [List.cons_append, checkAll_cons, checkAll_cons, ih]
    cases x.check <;> rfl

theorem checkAll_singleton (c : Component) : checkAll [c] = c.check := by
  rw [checkAll_cons]
  cases c.check <;> rfl

theorem exists_pass_iff {x : Except TooMany Unit} : (∃ u, x = .ok u) ↔ x = .ok () :=
  ⟨fun ⟨(), h⟩ => h, fun h => ⟨(), h⟩⟩

theorem checkAll_eq_ok_iff {cs : List Component} : checkAll cs = .ok () ↔ ∀ c ∈ cs, c.check = .ok () := by
  have hitems : checkAll cs = .ok () ↔ ∃ us, Decoder.items check cs = .ok us := by
    unfold checkAll
    cases Decoder.items check cs <;> simp [Except.map]
  simp only [hitems, Decoder.exists_items_iff, exists_pass_iff]

theorem checkAll_eq_error_iff {cs : List Component} {e : TooMany} : checkAll cs = .error e ↔
    ∃ before c after, cs = before ++ c :: after ∧ (∀ b ∈ before, b.check = .ok ()) ∧ c.check = .error e := by
  have hitems : checkAll cs = .error e ↔ Decoder.items check cs = .error e := by
    unfold checkAll
    cases Decoder.items check cs <;> simp [Except.map]
  simp only [hitems, Decoder.items_eq_error_iff, exists_pass_iff]

/-- no kind of menu is limited -/
theorem check_selectMenu (m : SelectMenu) : check (.selectMenu m) = .ok () := by
  have hlimit : (selectMenu m).kind.limit? = none := by
    rw [kind]
    cases m.kind <;> rfl
  rw [check, hlimit, Option.elim_none]

mutual
/-- the look through a tree goes along its preorder -/
theorem validate_eq : (c : Component) → c.validate = checkAll c.preorder
  | .actionRow ⟨i, xs⟩ => by
    rw [validate, preorder, checkAll_cons, validateAll_eq xs]
    rfl
  | .textSection ⟨i, xs, x⟩ => by
    rw [validate, preorder, checkAll_cons, checkAll_append, validateAll_eq xs, validate_eq x]
    rfl
  | .container ⟨i, c, s, xs⟩ => by
    rw [validate, preorder, checkAll_cons, validateAll_eq xs]
    rfl
  | .mediaGallery g => by
    rw [validate, preorder, checkAll_singleton]
    rfl
  | .selectMenu m => by
    rw [preorder, checkAll_singleton, check_selectMenu]
    rfl
  | .button _ | .textInput _ | .textDisplay _ | .thumbnail _ | .file _ | .separator _ => rfl
theorem validateAll_eq : (xs : List Component) → validateAll xs = checkAll (preorderAll xs)
  | [] => rfl
  | x :: xs => by
    rw [validateAll, preorderAll, checkAll_append, validate_eq x, validateAll_eq xs]
    rfl
end

/-- a tree passes when everything in it that is limited keeps its limit -/
theorem validate_eq_ok_iff {c : Component} : c.validate = .ok () ↔
    (∀ row, Node.Holds (.message c) (.message (.actionRow row)) → row.components.length ≤ 5) ∧
    (∀ s, Node.Holds (.message c) (.message (.textSection s)) → s.components.length ≤ 3) ∧
    ∀ g, Node.Holds (.message c) (.message (.mediaGallery g)) → g.items.length ≤ 10 := by
  rw [validate_eq, checkAll_eq_ok_iff]
  simp only [mem_preorder_iff]
  constructor
  · intro h
    refine ⟨fun row hrow => ?_, fun s hs => ?_, fun g hg => ?_⟩
    · exact checkCount_eq_ok_iff.1 (h _ hrow)
    · exact checkCount_eq_ok_iff.1 (h _ hs)
    · exact checkCount_eq_ok_iff.1 (h _ hg)
  · rintro ⟨hrow, hsection, hgallery⟩ x hx
    cases x with
    | actionRow row => exact checkCount_eq_ok_iff.2 (hrow row hx)
    | textSection s => exact checkCount_eq_ok_iff.2 (hsection s hx)
    | mediaGallery g => exact checkCount_eq_ok_iff.2 (hgallery g hx)
    | selectMenu m => exact check_selectMenu m
    | _ => rfl

/-- a tree is refused for the first component over its limit -/
theorem validate_eq_error_iff {c : Component} {e : TooMany} : c.validate = .error e ↔
    ∃ before x after, c.preorder = before ++ x :: after ∧ (∀ b ∈ before, ∀ e', ¬ b.Exceeds e') ∧ x.Exceeds e := by
  rw [validate_eq, checkAll_eq_error_iff]
  simp only [check_eq_ok_iff, check_eq_error_iff]

/-! ## Through the wire -/

theorem length_retouchAll (t : Touch) (xs : List Component) : (retouchAll t xs).length = xs.length := by
  rw [retouchAll_eq_map, List.length_map]

mutual
/-- a touch on buttons and menus changes no answer -/
theorem validate_retouch (t : Touch) : (c : Component) → (c.retouch t).validate = c.validate
  | .actionRow ⟨i, xs⟩ => by simp only [retouch, validate, length_retouchAll, validateAll_retouchAll t xs]
  | .textSection ⟨i, xs, x⟩ => by
    simp only [retouch, validate, length_retouchAll, validateAll_retouchAll t xs, validate_retouch t x]
  | .container ⟨i, c, s, xs⟩ => by simp only [retouch, validate, validateAll_retouchAll t xs]
  | .button _ | .selectMenu _ | .textInput _ | .textDisplay _ | .thumbnail _ | .mediaGallery _ | .file _
  | .separator _ => rfl
theorem validateAll_retouchAll (t : Touch) : (xs : List Component) → validateAll (retouchAll t xs) = validateAll xs
  | [] => rfl
  | x :: xs => by simp only [retouchAll, validateAll, validate_retouch t x, validateAll_retouchAll t xs]
end

end Component

/-! ## Main result -/

/-- **The first offender.** A tree passes just when every row in it holds at most five components, every section at most
three beside its accessory, and every gallery at most ten items. It is refused just for the first component in the order
of the document that holds too many: for its kind, for how many it holds and for how many it may. Written, stored and
read, it is answered the same. -/
theorem validate_first_offender (c : Component) :
    (c.validate = .ok () ↔
      (∀ row, Node.Holds (.message c) (.message (.actionRow row)) → row.components.length ≤ 5) ∧
      (∀ s, Node.Holds (.message c) (.message (.textSection s)) → s.components.length ≤ 3) ∧
      ∀ g, Node.Holds (.message c) (.message (.mediaGallery g)) → g.items.length ≤ 10) ∧
    (∀ e, c.validate = .error e ↔ ∃ before x after, c.preorder = before ++ x :: after ∧
      (∀ b ∈ before, ∀ e', ¬ b.Exceeds e') ∧ x.Exceeds e) ∧
    ∃ d, c.relay = .ok d ∧ d.validate = c.validate :=
  ⟨Component.validate_eq_ok_iff, fun _ => Component.validate_eq_error_iff,
    c.retouch .readBack, c.relay_eq, Component.validate_retouch .readBack c⟩

/-- a section with a row of six beside a row of seven -/
def crowded : Component :=
  .textSection ⟨none, [.actionRow (.new (List.replicate 6 (.button .blank)))],
    .actionRow (.new (List.replicate 7 (.button .blank)))⟩

example : crowded.validate = .error ⟨.actionRow, 6, 5⟩ := by rfl

end InteractionKit
