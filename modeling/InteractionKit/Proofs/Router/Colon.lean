import InteractionKit.Router
import Mathlib.Logic.Basic
/-
Colons in keys and ids.

A key is cut at a colon at its end, an id at its first colon. The two cuts meet in one text: the id up to its first
colon and with it, which ends in a colon and has no other.

- `EndsInColon`, `Leads`: a colon is the last character; a text begins with another.
- `firstKey`: a text through its first colon.
- `dropColon?_eq_some`, `splitAtColon_eq_some`: what the two cuts do.
- `routeOf?_eq_some`: the cut of an id, with its colon, is its first key.
- `firstKey_of_leads`: an id that begins with a key shares its first key.
-/
namespace InteractionKit

def EndsInColon (s : String) : Prop := ∃ p, s = p ++ ":"

/-- a text begins with another -/
def Leads (k s : String) : Prop := k.toList <+: s.toList

/-- a text through its first colon -/
def firstKey (s : String) : String := String.ofList (s.toList.takeWhile (· ≠ ':')) ++ ":"

theorem toList_append_colon (p : String) : (p ++ ":").toList = p.toList ++ [':'] := by
  rw [String.toList_append]
  rfl

theorem endsInColon_firstKey (s : String) : EndsInColon (firstKey s) := ⟨_, rfl⟩

/-! ## The colon at the end -/

theorem dropColon?_eq_some {s p : String} : dropColon? s = some p ↔ s = p ++ ":" := by
  unfold dropColon?
  constructor
  · intro h
    split at h
    · next r hr =>
      have hs : s.toList = r.reverse ++ [':'] := by
        rw [← List.reverse_reverse s.toList, hr, List.reverse_cons]
      cases h
      rw [← String.toList_inj, toList_append_colon, String.toList_ofList, hs]
    · cases h
  · rintro rfl
    rw [toList_append_colon, List.reverse_append, List.reverse_singleton, List.singleton_append]
    simp

theorem dropColon?_eq_none {s : String} : dropColon? s = none ↔ ¬ EndsInColon s := by
  rw [Option.eq_none_iff_forall_ne_some]
  unfold EndsInColon
  rw [not_exists]
  exact forall_congr' fun p => not_congr dropColon?_eq_some

instance (s : String) : Decidable (EndsInColon s) :=
  decidable_of_iff (dropColon? s ≠ none) (by rw [ne_eq, dropColon?_eq_none, not_not])

theorem EndsInColon.mem {s : String} (h : EndsInColon s) : ':' ∈ s.toList := by
  obtain ⟨p, rfl⟩ := h
  rw [toList_append_colon]
  simp

/-! ## The first colon -/

theorem splitAtColon_eq_some {cs as bs : List Char} :
    splitAtColon cs = some (as, bs) ↔ cs = as ++ ':' :: bs ∧ ':' ∉ as := by
  induction cs generalizing as with
  | nil => simp [splitAtColon]
  | cons c cs ih =>
    unfold splitAtColon
    by_cases hc : c = ':'
    · rw [if_pos hc, hc]
      cases as with
      | nil => simp [eq_comm]
      | cons a as =>
        simp only [Option.some.injEq, Prod.mk.injEq, List.cons_append, List.cons.injEq, List.mem_cons, not_or]
        constructor
        · rintro ⟨h, -⟩
          cases h
        · rintro ⟨⟨ha, -⟩, hne, -⟩
          exact absurd ha hne
    · rw [if_neg hc, Option.map_eq_some_iff]
      constructor
      · rintro ⟨⟨as', bs'⟩, hsplit, heq⟩
        cases heq
        obtain ⟨rfl, hnot⟩ := ih.1 hsplit
        exact ⟨rfl, by simp [Ne.symm hc, hnot]⟩
      · rintro ⟨heq, hnot⟩
        cases as with
        | nil =>
          cases heq
          exact absurd rfl hc
        | cons a as =>
          cases heq
          simp only [List.mem_cons, not_or] at hnot
          exact ⟨(as, bs), ih.2 ⟨rfl, hnot.2⟩, rfl⟩

theorem splitAtColon_eq_none {cs : List Char} : splitAtColon cs = none ↔ ':' ∉ cs := by
  rw [Option.eq_none_iff_forall_ne_some]
  constructor
  · intro h hmem
    obtain ⟨as, bs, rfl, hnot⟩ := List.eq_append_cons_of_mem hmem
    exact h (as, bs) (splitAtColon_eq_some.2 ⟨rfl, hnot⟩)
  · rintro hnot ⟨as, bs⟩ h
    obtain ⟨rfl, -⟩ := splitAtColon_eq_some.1 h
    simp at hnot

theorem takeWhile_colon {as bs : List Char} (h : ':' ∉ as) : (as ++ ':' :: bs).takeWhile (· ≠ ':') = as := by
  have has : ∀ a ∈ as, decide (a ≠ ':') = true := by
    intro a ha
    refine decide_eq_true ?_
    rintro rfl
    exact h ha
  rw [List.takeWhile_append_of_pos has]
  simp

/-! ## First keys -/

/-- a key without another colon before its last is the first key of all texts that it leads -/
theorem firstKey_eq {p s : String} (hp : ':' ∉ p.toList) (h : Leads (p ++ ":") s) : firstKey s = p ++ ":" := by
  obtain ⟨bs, hbs⟩ := h
  rw [toList_append_colon, List.append_assoc, List.singleton_append] at hbs
  unfold firstKey
  rw [← hbs, takeWhile_colon hp, String.ofList_toList]

/-- a text with a colon has a first key, which leads it -/
theorem exists_firstKey {s : String} (h : ':' ∈ s.toList) :
    ∃ p, ':' ∉ p.toList ∧ firstKey s = p ++ ":" ∧ Leads (p ++ ":") s := by
  obtain ⟨as, bs, hs, hnot⟩ := List.eq_append_cons_of_mem h
  have hp : ':' ∉ (String.ofList as).toList := by rwa [String.toList_ofList]
  have hleads : Leads (String.ofList as ++ ":") s := by
    refine ⟨bs, ?_⟩
    rw [toList_append_colon, String.toList_ofList, hs, List.append_assoc, List.singleton_append]
  exact ⟨String.ofList as, hp, firstKey_eq hp hleads, hleads⟩

theorem leads_firstKey {s : String} (h : ':' ∈ s.toList) : Leads (firstKey s) s := by
  obtain ⟨p, -, hfirst, hleads⟩ := exists_firstKey h
  rw [hfirst]
  exact hleads

/-- a text that begins with a key shares its first key -/
theorem firstKey_of_leads {k s : String} (hk : ':' ∈ k.toList) (h : Leads k s) : firstKey s = firstKey k := by
  obtain ⟨p, hp, hfirst, hleads⟩ := exists_firstKey hk
  rw [hfirst]
  exact firstKey_eq hp (hleads.trans h)

/-- the lookup cuts an id to its first key, without the colon -/
theorem routeOf?_eq_some {s : String} (h : ':' ∈ s.toList) : ∃ p, routeOf? s = some p ∧ p ++ ":" = firstKey s := by
  obtain ⟨p, hp, hfirst, bs, hbs⟩ := exists_firstKey h
  rw [toList_append_colon, List.append_assoc, List.singleton_append] at hbs
  refine ⟨p, ?_, hfirst.symm⟩
  unfold routeOf?
  rw [splitAtColon_eq_some.2 ⟨hbs.symm, hp⟩, Option.map_some, String.ofList_toList]

theorem routeOf?_eq_none {s : String} (h : ':' ∉ s.toList) : routeOf? s = none := by
  unfold routeOf?
  rw [splitAtColon_eq_none.2 h, Option.map_none]

end InteractionKit
