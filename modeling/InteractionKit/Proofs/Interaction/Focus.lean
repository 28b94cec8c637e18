import InteractionKit.Command
/-
The focused option of a command.

Options stand in a tree, each at a place: its number among the options of the command, then its number among the options
of that one, and so on down. Places are ordered as numbers of chapters are: a place comes before all below it, and before
all that branch off to its right. The search goes through the options in this order and answers the first focused one. So
an option that is focused is passed over for none that stands in it, and one that is not hides nothing behind it.

- `CommandOption.Stands`: the option at a place.
- `CommandOption.preorder`: an option and all that stands in it, each before its own options.
- `CommandOption.focusedAmong?_eq_find?`: the search goes along the preorder.
- `CommandOption.FirstFocus`: a focused option, none before it.
- `first_focused_option`: when a command has a focused option, and which.
-/
namespace InteractionKit

namespace CommandOption

/-! ## Places -/

/-- an option at a place below some options -/
inductive Stands : List CommandOption → List Nat → CommandOption → Prop where
  | among {os : List CommandOption} {i : Nat} {o : CommandOption} : os[i]? = some o → Stands os [i] o
  | within {os : List CommandOption} {i : Nat} {o d : CommandOption} {p : List Nat} :
      os[i]? = some o → Stands o.options p d → Stands os (i :: p) d

namespace Stands

variable {o d e : CommandOption} {os : List CommandOption} {i : Nat} {p : List Nat}

/-- one option stands at a place -/
theorem unique (h : Stands os p d) (h' : Stands os p e) : d = e := by
  induction h with
  | among hd =>
    cases h' with
    | among he => exact Option.some.inj (hd.symm.trans he)
    | within _ hbelow => cases hbelow
  | within ho hbelow ih =>
    cases h' with
    | among _ => cases hbelow
    | within ho' hbelow' =>
      obtain rfl := Option.some.inj (ho.symm.trans ho')
      exact ih hbelow'

theorem first (o : CommandOption) (os : List CommandOption) : Stands (o :: os) [0] o := .among rfl

theorem within_first (h : Stands o.options p d) : Stands (o :: os) (0 :: p) d := .within rfl h

theorem later (h : Stands os (i :: p) d) : Stands (o :: os) ((i + 1) :: p) d := by
  cases h with
  | among hd => exact .among hd
  | within hx hbelow => exact .within hx hbelow

/-- what stands among options is the first, stands below the first, or stands among the later ones -/
theorem cases_cons (h : Stands (o :: os) p d) : (p = [0] ∧ d = o) ∨
    (∃ q, p = 0 :: q ∧ Stands o.options q d) ∨ ∃ i q, p = (i + 1) :: q ∧ Stands os (i :: q) d := by
  cases h with
  | @among _ i _ hd =>
    cases i with
    | zero => exact .inl ⟨rfl, (Option.some.inj hd).symm⟩
    | succ i => exact .inr (.inr ⟨i, [], rfl, .among hd⟩)
  | @within _ i x _ q hx hbelow =>
    cases i with
    | zero =>
      obtain rfl : o = x := Option.some.inj hx
      exact .inr (.inl ⟨q, rfl, hbelow⟩)
    | succ i => exact .inr (.inr ⟨i, q, rfl, .within hx hbelow⟩)

end Stands

/-! ## The preorder -/

mutual
/-- an option and all that stands in it, each before its own options, siblings in their order -/
def preorder : CommandOption → List CommandOption
  | mk n k v os f => mk n k v os f :: preorderAll os
def preorderAll : List CommandOption → List CommandOption
  | [] => []
  | o :: os => preorder o ++ preorderAll os
end

theorem mem_preorder_iff {o d : CommandOption} : d ∈ o.preorder ↔ d = o ∨ d ∈ preorderAll o.options := by
  obtain ⟨n, k, v, os, f⟩ := o
  rw [preorder, List.mem_cons, options]

theorem stands_of_mem_preorderAll : (os : List CommandOption) → {d : CommandOption} → d ∈ preorderAll os →
    ∃ p, Stands os p d
  | mk n k v xs f :: os, d, h => by
    rcases List.mem_append.1 h with h | h
    · rcases mem_preorder_iff.1 h with rfl | h
      · exact ⟨[0], .first _ os⟩
      · obtain ⟨p, hp⟩ := stands_of_mem_preorderAll xs h
        exact ⟨0 :: p, .within_first hp⟩
    · obtain ⟨p, hp⟩ := stands_of_mem_preorderAll os h
      cases p with
      | nil => cases hp
      | cons i p => exact ⟨(i + 1) :: p, hp.later⟩

theorem mem_preorderAll_of_mem {os : List CommandOption} {o d : CommandOption} (ho : o ∈ os) (h : d ∈ o.preorder) :
    d ∈ preorderAll os := by
  induction os with
  | nil => cases ho
  | cons x os ih =>
    rw [preorderAll, List.mem_append]
    rcases List.mem_cons.1 ho with rfl | ho
    · exact .inl h
    · exact .inr (ih ho)

/-- the preorder leaves out nothing that stands in the tree -/
theorem mem_preorderAll_iff {os : List CommandOption} {d : CommandOption} :
    d ∈ preorderAll os ↔ ∃ p, Stands os p d := by
  refine ⟨stands_of_mem_preorderAll os, ?_⟩
  rintro ⟨p, hp⟩
  induction hp with
  | among hd => exact mem_preorderAll_of_mem (List.mem_of_getElem? hd) (mem_preorder_iff.2 (.inl rfl))
  | within ho _ ih => exact mem_preorderAll_of_mem (List.mem_of_getElem? ho) (mem_preorder_iff.2 (.inr ih))

/-! ## The search -/

mutual
theorem focused?_eq_find? : (o : CommandOption) → o.focused? = o.preorder.find? focused
  | mk n k v os f => by
    rw [focused?, preorder, List.find?_cons, focusedAmong?_eq_find? os]
    cases f <;> rfl
/-- the search goes along the preorder -/
theorem focusedAmong?_eq_find? : (os : List CommandOption) → focusedAmong? os = (preorderAll os).find? focused
  | [] => rfl
  | o :: os => by
    rw [focusedAmong?, preorderAll, List.find?_append, focused?_eq_find? o, focusedAmong?_eq_find? os]
end

theorem focusedAmong?_eq_none_iff {os : List CommandOption} :
    focusedAmong? os = none ↔ ∀ p o, Stands os p o → o.focused = false := by
  rw [focusedAmong?_eq_find?, List.find?_eq_none]
  simp only [mem_preorderAll_iff, Bool.not_eq_true]
  exact ⟨fun h p o hp => h o ⟨p, hp⟩, fun h o ⟨p, hp⟩ => h p o hp⟩

theorem focusedAmong?_eq_some_iff {os : List CommandOption} {o : CommandOption} : focusedAmong? os = some o ↔
    ∃ before after, preorderAll os = before ++ o :: after ∧ o.focused = true ∧ ∀ b ∈ before, b.focused = false := by
  rw [focusedAmong?_eq_find?, List.find?_eq_some_iff_append]
  constructor
  · rintro ⟨hfocused, before, after, hsplit, hbefore⟩
    exact ⟨before, after, hsplit, hfocused, fun b hb => by simpa using hbefore b hb⟩
  · rintro ⟨before, after, hsplit, hfocused, hbefore⟩
    exact ⟨hfocused, before, after, hsplit, fun b hb => by simpa using hbefore b hb⟩

/-! ## The first place -/

/-- a focused option at a place, every other focused option at a later one -/
structure FirstFocus (os : List CommandOption) (p : List Nat) (o : CommandOption) : Prop where
  stands : Stands os p o
  focused : o.focused = true
  precedes : ∀ q d, Stands os q d → d.focused = true → q = p ∨ List.Lex (· < ·) p q

namespace FirstFocus

variable {o d : CommandOption} {os : List CommandOption} {i : Nat} {p : List Nat}

/-- a focused option comes before all that stands in it or behind it -/
theorem self (h : o.focused = true) : FirstFocus (o :: os) [0] o := by
  refine ⟨.first o os, h, fun q d hq _ => ?_⟩
  obtain ⟨rfl, -⟩ | ⟨r, rfl, hr⟩ | ⟨i, r, rfl, -⟩ := hq.cases_cons
  · exact .inl rfl
  · cases r with
    | nil => cases hr
    | cons j r => exact .inr (.cons .nil)
  · exact .inr (.rel i.succ_pos)

/-- behind an option that is not focused, what stands in it comes first -/
theorem below (ho : o.focused = false) (h : FirstFocus o.options p d) : FirstFocus (o :: os) (0 :: p) d := by
  refine ⟨.within_first h.stands, h.focused, fun q e hq he => ?_⟩
  obtain ⟨-, rfl⟩ | ⟨r, rfl, hr⟩ | ⟨i, r, rfl, -⟩ := hq.cases_cons
  · rw [ho] at he
    cases he
  · exact (h.precedes r e hr he).imp (congrArg _) .cons
  · exact .inr (.rel i.succ_pos)

/-- an option that neither is focused nor holds one that is hides nothing -/
theorem later (ho : o.focused = false) (hbelow : focusedAmong? o.options = none) (h : FirstFocus os (i :: p) d) :
    FirstFocus (o :: os) ((i + 1) :: p) d := by
  refine ⟨h.stands.later, h.focused, fun q e hq he => ?_⟩
  obtain ⟨-, rfl⟩ | ⟨r, rfl, hr⟩ | ⟨j, r, rfl, hr⟩ := hq.cases_cons
  · rw [ho] at he
    cases he
  · rw [focusedAmong?_eq_none_iff.1 hbelow r e hr] at he
    cases he
  · rcases h.precedes _ e hr he with heq | hlex
    · obtain ⟨rfl, rfl⟩ := List.cons.inj heq
      exact .inl rfl
    · cases hlex with
      | rel hij => exact .inr (.rel (Nat.succ_lt_succ hij))
      | cons hlex => exact .inr (.cons hlex)

theorem unique {q : List Nat} (h : FirstFocus os p o) (h' : FirstFocus os q d) : o = d := by
  have hasymm : ∀ {r s : List Nat}, List.Lex (· < ·) r s → ¬ List.Lex (· < ·) s r :=
    List.lex_asymm fun hxy => Nat.lt_asymm hxy
  have hplace : q = p := by
    rcases h.precedes q d h'.stands h'.focused with hqp | hpq
    · exact hqp
    · rcases h'.precedes p o h.stands h.focused with hqp | hqp
      · exact hqp.symm
      · exact absurd hqp (hasymm hpq)
  subst hplace
  exact h.stands.unique h'.stands

end FirstFocus

/-- the search finds the focused option at the first place, by induction on the tree -/
theorem exists_firstFocus : (os : List CommandOption) → {d : CommandOption} → focusedAmong? os = some d →
    ∃ p, FirstFocus os p d
  | mk n k v xs true :: os, d, h => by
    rw [focusedAmong?, focused?, if_pos rfl, Option.some_or] at h
    obtain rfl := Option.some.inj h
    exact ⟨[0], .self rfl⟩
  | mk n k v xs false :: os, d, h => by
    rw [focusedAmong?, focused?, if_neg Bool.false_ne_true] at h
    cases hbelow : focusedAmong? xs with
    | some e =>
      rw [hbelow, Option.some_or] at h
      obtain rfl := Option.some.inj h
      obtain ⟨p, hp⟩ := exists_firstFocus xs hbelow
      exact ⟨0 :: p, .below rfl hp⟩
    | none =>
      rw [hbelow, Option.none_or] at h
      obtain ⟨p, hp⟩ := exists_firstFocus os h
      cases p with
      | nil => cases hp.stands
      | cons i p => exact ⟨(i + 1) :: p, .later rfl hbelow hp⟩

theorem focusedAmong?_eq_some_iff_first {os : List CommandOption} {o : CommandOption} :
    focusedAmong? os = some o ↔ ∃ p, FirstFocus os p o := by
  refine ⟨exists_firstFocus os, fun ⟨p, hp⟩ => ?_⟩
  cases h : focusedAmong? os with
  | none =>
    have hunfocused := focusedAmong?_eq_none_iff.1 h p o hp.stands
    rw [hp.focused] at hunfocused
    cases hunfocused
  | some d =>
    obtain ⟨q, hq⟩ := exists_firstFocus os h
    rw [hp.unique hq]

end CommandOption

namespace CommandData

/-- all options of a command at every depth, each before its own options -/
def preorder (c : CommandData) : List CommandOption := CommandOption.preorderAll c.options

end CommandData

/-! ## Main result -/

open CommandOption in
/-- **The focused option.** A command has no focused option just if no option at any place in it is focused. Otherwise
the focused option is the first that is focused in the preorder, which lists just what stands in the command, and it is
the one at the first place where a focused one stands. So an option that is focused is passed over for none that stands
in it or to its right, and one that is not hides nothing behind it. -/
theorem first_focused_option (c : CommandData) :
    (c.focusedOption? = none ↔ ∀ p o, Stands c.options p o → o.focused = false) ∧
    (∀ o, o ∈ c.preorder ↔ ∃ p, Stands c.options p o) ∧
    (∀ o, c.focusedOption? = some o ↔ ∃ before after, c.preorder = before ++ o :: after ∧ o.focused = true ∧
      ∀ b ∈ before, b.focused = false) ∧
    (∀ o, c.focusedOption? = some o ↔ ∃ p, Stands c.options p o ∧ o.focused = true ∧
      ∀ q d, Stands c.options q d → d.focused = true → q = p ∨ List.Lex (· < ·) p q) ∧
    ∀ p o, Stands c.options p o → o.focused = true →
      ∃ q d, c.focusedOption? = some d ∧ Stands c.options q d ∧ (p = q ∨ List.Lex (· < ·) q p) := by
  refine ⟨focusedAmong?_eq_none_iff, fun _ => mem_preorderAll_iff, fun _ => focusedAmong?_eq_some_iff, fun o => ?_,
    fun p o hp ho => ?_⟩
  · rw [CommandData.focusedOption?, focusedAmong?_eq_some_iff_first]
    exact exists_congr fun p => ⟨fun h => ⟨h.stands, h.focused, h.precedes⟩, fun ⟨h, hf, hp⟩ => ⟨h, hf, hp⟩⟩
  · cases hanswer : c.focusedOption? with
    | none =>
      rw [focusedAmong?_eq_none_iff.1 hanswer p o hp] at ho
      cases ho
    | some d =>
      obtain ⟨q, hq⟩ := focusedAmong?_eq_some_iff_first.1 hanswer
      exact ⟨q, d, rfl, hq.stands, hq.precedes p o hp ho⟩

/-- a command typed into twice at once: in a command of its group, and in an option of that command -/
def tagging : CommandData where
  id := ⟨121, by decide, by decide⟩
  name := "tag"
  kind := .chatInput
  guildId := none
  options :=
    [.mk "list" .subCommand none [.mk "page" .integer (some (.int 2)) [] false] false,
      .mk "own" .subCommandGroup none
        [.mk "get" .subCommand none [.mk "name" .string (some (.str "ru")) [] true] true] false]
  resolved := none
  targetId := none

example : tagging.focusedOption?.map CommandOption.name = some "get" := by decide

end InteractionKit
