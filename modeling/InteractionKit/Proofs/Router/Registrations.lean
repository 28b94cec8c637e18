import InteractionKit.Proofs.Router.Colon
import Mathlib.Data.List.Induction
/-
A router told by the list of its registrations.

Routes of a family are kept in two lists, by whether the key ends in a colon. Both answer with the last registration of
the family under the key that they are asked for, whatever else was registered before or after.

- `lastHandler?`: the last registration of a key in a family. `exactHandler?`: the same of a key as it is.
- `routes_registerAll`: what the two lists of a family hold after any registrations.
- `get?_registerAll`: the answer to an id, by its own registration or by that of its first key.
-/
namespace InteractionKit

variable {η : Type}

/-- what was registered: a family, a key in it, and a handler -/
abbrev Registration (η : Type) := RouteFamily × String × η

/-- the handler that was last registered for a key in a family -/
def lastHandler? (rs : List (Registration η)) (f : RouteFamily) (key : String) : Option η :=
  (rs.reverse.find? fun p => p.1 = f ∧ p.2.1 = key).map fun p => p.2.2

/-- the handler that was last registered for a text as it is; a key that ends in a colon stands for other texts -/
def exactHandler? (rs : List (Registration η)) (f : RouteFamily) (s : String) : Option η :=
  if EndsInColon s then none else lastHandler? rs f s

/-- some handler was registered for a key in a family -/
def Registered (rs : List (Registration η)) (f : RouteFamily) (key : String) : Prop := ∃ h, (f, key, h) ∈ rs

theorem lastHandler?_snoc (rs : List (Registration η)) (p : Registration η) (f : RouteFamily) (key : String) :
    lastHandler? (rs ++ [p]) f key = if p.1 = f ∧ p.2.1 = key then some p.2.2 else lastHandler? rs f key := by
  unfold lastHandler?
  rw [List.reverse_append, List.reverse_singleton, List.singleton_append, List.find?_cons]
  by_cases h : p.1 = f ∧ p.2.1 = key
  · simp [h]
  · simp [h]

/-- a registered key has a last handler, and no other key has one -/
theorem lastHandler?_isSome {rs : List (Registration η)} {f : RouteFamily} {key : String} :
    (lastHandler? rs f key).isSome ↔ Registered rs f key := by
  unfold lastHandler? Registered
  rw [Option.isSome_map, List.find?_isSome]
  constructor
  · rintro ⟨⟨f', key', h⟩, hmem, hp⟩
    obtain ⟨rfl, rfl⟩ := of_decide_eq_true hp
    exact ⟨h, List.mem_reverse.1 hmem⟩
  · rintro ⟨h, hmem⟩
    exact ⟨(f, key, h), List.mem_reverse.2 hmem, by simp⟩

theorem exactHandler?_isSome {rs : List (Registration η)} {f : RouteFamily} {s : String} :
    (exactHandler? rs f s).isSome ↔ ¬ EndsInColon s ∧ Registered rs f s := by
  unfold exactHandler?
  split
  · next h => simp [h]
  · next h => rw [lastHandler?_isSome, and_iff_right h]

/-! ## One registration -/

theorem lookup_putRoute (key k : String) (h : η) (r : List (String × η)) :
    (putRoute key h r).lookup k = if key = k then some h else r.lookup k := by
  induction r with
  | nil =>
    by_cases hk : key = k
    · simp [putRoute, hk]
    · simp [putRoute, hk, Ne.symm hk]
  | cons p r ih =>
    obtain ⟨l, g⟩ := p
    unfold putRoute
    by_cases hl : l = key
    · rw [if_pos hl, List.lookup_cons, List.lookup_cons, hl]
      by_cases hk : key = k
      · simp [hk]
      · have hbeq : (k == key) = false := beq_false_of_ne (Ne.symm hk)
        rw [hbeq, if_neg hk]
    · rw [if_neg hl, List.lookup_cons, List.lookup_cons, ih]
      by_cases hk : k = l
      · have hne : key ≠ k := fun h => hl (h.trans hk).symm
        simp [hk, hk ▸ hne]
      · have hbeq : (k == l) = false := beq_false_of_ne hk
        rw [hbeq]

/-- what a family answers under a key as it is, and under a key and a colon -/
def Routes.Holds (r : Routes η) (log : String → Option η) : Prop :=
  (∀ s, r.exact.lookup s = if EndsInColon s then none else log s) ∧ ∀ p, r.leading.lookup p = log (p ++ ":")

theorem Routes.holds_empty : (Routes.empty : Routes η).Holds fun _ => none := by
  refine ⟨fun s => ?_, fun p => rfl⟩
  rw [ite_self]
  rfl

theorem Routes.Holds.insert {r : Routes η} {log : String → Option η} (hr : r.Holds log) (key : String) (h : η) :
    (r.insert key h).Holds fun s => if key = s then some h else log s := by
  unfold Routes.insert
  cases hd : dropColon? key with
  | none =>
    have hkey : ¬ EndsInColon key := dropColon?_eq_none.1 hd
    refine ⟨fun s => ?_, fun p => ?_⟩
    · simp only [lookup_putRoute, hr.1]
      by_cases hs : key = s
      · subst hs
        simp [hkey]
      · simp [hs]
    · have hne : key ≠ p ++ ":" := fun heq => hkey ⟨p, heq⟩
      simp only [hr.2, if_neg hne]
  | some k =>
    have hkey : key = k ++ ":" := dropColon?_eq_some.1 hd
    refine ⟨fun s => ?_, fun p => ?_⟩
    · simp only [hr.1]
      by_cases hs : key = s
      · have hcolon : EndsInColon s := hs ▸ ⟨k, hkey⟩
        rw [if_pos hcolon, if_pos hcolon]
      · rw [if_neg hs]
    · simp only [lookup_putRoute, hr.2, hkey, String.append_left_inj]

/-! ## All registrations -/

namespace Router

theorem registerAll_snoc (r : Router η) (rs : List (Registration η)) (p : Registration η) :
    r.registerAll (rs ++ [p]) = (r.registerAll rs).register p.1 p.2.1 p.2.2 := by
  simp [registerAll, List.foldl_append]

theorem routes_register (r : Router η) (f g : RouteFamily) (key : String) (h : η) :
    (r.register f key h).routes g = if f = g then (r.routes g).insert key h else r.routes g := by
  cases f <;> cases g <;> rfl

theorem applicationId_register (r : Router η) (f : RouteFamily) (key : String) (h : η) :
    (r.register f key h).applicationId = r.applicationId := by
  cases f <;> rfl

theorem applicationId_registerAll (r : Router η) (rs : List (Registration η)) :
    (r.registerAll rs).applicationId = r.applicationId := by
  induction rs using List.reverseRecOn with
  | nil => rfl
  | append_singleton rs p ih => rw [registerAll_snoc, applicationId_register, ih]

/-- a router without routes holds after any registrations just the last of each key -/
theorem routes_registerAll {r : Router η} (hr : ∀ f, r.routes f = .empty) (rs : List (Registration η))
    (f : RouteFamily) : ((r.registerAll rs).routes f).Holds (lastHandler? rs f) := by
  induction rs using List.reverseRecOn with
  | nil =>
    have hnil : (r.registerAll []).routes f = .empty := hr f
    rw [hnil]
    exact Routes.holds_empty
  | append_singleton rs p ih =>
    rw [registerAll_snoc, routes_register]
    have hlog : lastHandler? (rs ++ [p]) f = fun s => if p.1 = f ∧ p.2.1 = s then some p.2.2 else lastHandler? rs f s :=
      funext fun s => lastHandler?_snoc rs p f s
    rw [hlog]
    by_cases hf : p.1 = f
    · simp only [hf, if_true, true_and]
      exact ih.insert p.2.1 p.2.2
    · simp only [hf, if_false, false_and]
      exact ih

/-- an id is answered by its own registration, else by that of its first key -/
theorem get?_registerAll {r : Router η} (hr : ∀ f, r.routes f = .empty) (rs : List (Registration η))
    (f : RouteFamily) (s : String) :
    ((r.registerAll rs).routes f).get? s =
      (exactHandler? rs f s).or (if ':' ∈ s.toList then lastHandler? rs f (firstKey s) else none) := by
  obtain ⟨hexact, hleading⟩ := routes_registerAll hr rs f
  unfold Routes.get? exactHandler?
  rw [hexact s]
  congr 1
  by_cases hs : ':' ∈ s.toList
  · obtain ⟨p, hp, hfirst⟩ := routeOf?_eq_some hs
    rw [if_pos hs, hp, Option.bind_some, hleading, hfirst]
  · rw [if_neg hs, routeOf?_eq_none hs, Option.bind_none]

theorem routes_empty (f : RouteFamily) : (Router.empty : Router η).routes f = .empty := by
  cases f <;> rfl

end Router

end InteractionKit
