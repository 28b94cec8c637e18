import InteractionKit.Json.Record
import Mathlib.Data.List.Nodup
import Mathlib.Data.List.Perm.Basic
/-
The stored form of an object whose keys are distinct.

Storing sorts members and keeps the last of a key. Without a repeated key nothing is dropped, so the stored members are
a rearrangement of the members with stored values, and each key still answers with its own value.

- `Json.Distinct`: no key is written twice.
- `Json.Within`: members under listed keys only, which is how distinct keys are shown.
- `canonicalMembers_nil_perm`, `get?_canonicalMembers`: what storing does to members and to answers.
-/
namespace InteractionKit.Json

/-- the keys of some members, in their order -/
def keys (ms : Members) : List String := ms.map Prod.fst

/-- no key is written twice -/
def Distinct (ms : Members) : Prop := (keys ms).Nodup

/-! ## Finding a key -/

theorem find_eq_none {ms : Members} {key : String} (h : key ∉ keys ms) : find key ms = none := by
  induction ms with
  | nil => rfl
  | cons p ms ih =>
    obtain ⟨k, v⟩ := p
    simp only [keys, List.map_cons, List.mem_cons, not_or] at h
    simp only [find, if_neg (Ne.symm h.1)]
    exact ih h.2

/-- a key of distinct members is found with its value, and not again behind it -/
theorem find_eq_some {ms : Members} {key : String} {v : Json} (hms : Distinct ms) (h : (key, v) ∈ ms) :
    ∃ rest, find key ms = some (v, rest) ∧ find key rest = none := by
  induction ms with
  | nil => cases h
  | cons p ms ih =>
    obtain ⟨k, w⟩ := p
    have hk := List.nodup_cons.1 hms
    rcases List.mem_cons.1 h with heq | hmem
    · cases heq
      exact ⟨ms, by simp [find], find_eq_none hk.1⟩
    · have hne : k ≠ key := by
        rintro rfl
        exact hk.1 (List.mem_map.2 ⟨(k, v), hmem, rfl⟩)
      obtain ⟨rest, hrest, hnot⟩ := ih hk.2 hmem
      exact ⟨rest, by simp [find, hne, hrest], hnot⟩

theorem get?_eq_none {ms : Members} {key : String} (h : key ∉ keys ms) : get? key (.obj ms) = none := by
  simp [get?, find_eq_none h]

theorem mem_of_get? {ms : Members} {key : String} {v : Json} (h : get? key (.obj ms) = some v) : (key, v) ∈ ms := by
  induction ms with
  | nil => simp [get?, find] at h
  | cons p ms ih =>
    obtain ⟨k, w⟩ := p
    simp only [get?, find] at h ih
    split at h
    · next hk =>
      simp only [Option.map_some, Option.some.injEq] at h
      rw [← hk, ← h]; exact List.mem_cons_self
    · exact List.mem_cons_of_mem _ (ih h)

theorem get?_eq_some_iff {ms : Members} {key : String} {v : Json} (hms : Distinct ms) :
    get? key (.obj ms) = some v ↔ (key, v) ∈ ms := by
  refine ⟨mem_of_get?, fun h => ?_⟩
  obtain ⟨rest, hrest, -⟩ := find_eq_some hms h
  simp [get?, hrest]

theorem get?_append (key : String) (xs ys : Members) :
    get? key (.obj (xs ++ ys)) = (get? key (.obj xs)).or (get? key (.obj ys)) := by
  induction xs with
  | nil => simp [get?, find]
  | cons p xs ih =>
    obtain ⟨k, v⟩ := p
    simp only [get?, find, List.cons_append] at ih ⊢
    split
    · rfl
    · exact ih

/-! ## Storing -/

theorem insertMember_perm {k : String} {v : Json} {ms : Members} (h : k ∉ keys ms) :
    (insertMember k v ms).Perm ((k, v) :: ms) := by
  induction ms with
  | nil => exact .refl _
  | cons p ms ih =>
    obtain ⟨l, w⟩ := p
    simp only [keys, List.map_cons, List.mem_cons, not_or] at h
    simp only [insertMember, if_neg h.1]
    split
    · exact .refl _
    · exact ((ih h.2).cons _).trans (.swap _ _ _)

theorem canonicalMembers_perm {sorted ms : Members} (h : Distinct (sorted ++ ms)) :
    (canonicalMembers sorted ms).Perm (sorted ++ ms.map fun p => (p.1, p.2.canonical)) := by
  induction ms generalizing sorted with
  | nil => simp [canonicalMembers]
  | cons p ms ih =>
    obtain ⟨k, v⟩ := p
    have hk : k ∉ keys sorted := by
      intro hmem
      simp only [Distinct, keys, List.map_append, List.map_cons] at h
      exact (List.disjoint_of_nodup_append h) hmem List.mem_cons_self
    have hins : (insertMember k v.canonical sorted).Perm ((k, v.canonical) :: sorted) := insertMember_perm hk
    have hnext : Distinct (insertMember k v.canonical sorted ++ ms) := by
      have hp : (keys (insertMember k v.canonical sorted ++ ms)).Perm (keys (sorted ++ (k, v) :: ms)) := by
        refine ((hins.append_right ms).map Prod.fst).trans ?_
        simp only [keys, List.map_append, List.map_cons, List.cons_append]
        exact List.perm_middle.symm
      exact hp.nodup_iff.2 h
    simp only [canonicalMembers]
    refine (ih hnext).trans ((hins.append_right _).trans ?_)
    simp only [List.map_cons, List.cons_append]
    exact List.perm_middle.symm

/-- distinct members are stored as a rearrangement of themselves, each value stored -/
theorem canonicalMembers_nil_perm {ms : Members} (h : Distinct ms) :
    (canonicalMembers [] ms).Perm (ms.map fun p => (p.1, p.2.canonical)) := by
  have hnil : Distinct ([] ++ ms) := h
  simpa using canonicalMembers_perm hnil

theorem distinct_canonicalMembers {ms : Members} (h : Distinct ms) : Distinct (canonicalMembers [] ms) := by
  refine ((canonicalMembers_nil_perm h).map Prod.fst).nodup_iff.2 ?_
  simpa [Distinct, keys, Function.comp_def] using h

/-- storing distinct members stores the value under each key -/
theorem get?_canonicalMembers {ms : Members} (key : String) (h : Distinct ms) :
    get? key (.obj (canonicalMembers [] ms)) = (get? key (.obj ms)).map canonical := by
  have hp := canonicalMembers_nil_perm h
  ext v
  rw [Option.map_eq_some_iff, get?_eq_some_iff (distinct_canonicalMembers h), hp.mem_iff]
  constructor
  · intro hm
    obtain ⟨⟨k, w⟩, hw, heq⟩ := List.mem_map.1 hm
    cases heq
    exact ⟨w, (get?_eq_some_iff h).2 hw, rfl⟩
  · rintro ⟨w, hw, rfl⟩
    exact List.mem_map.2 ⟨(key, w), mem_of_get? hw, rfl⟩

theorem canonicalItems_eq_map (xs : List Json) : canonicalItems xs = xs.map canonical := by
  induction xs with
  | nil => rfl
  | cons x xs ih => simp [canonicalItems, ih]

/-! ## Members under listed keys -/

/-- members under some of the listed keys, in the order of the list, none twice -/
def Within (ms : Members) (ks : List String) : Prop := (keys ms).Sublist ks

theorem Within.append {xs ys : Members} {ks ls : List String} (hx : Within xs ks) (hy : Within ys ls) :
    Within (xs ++ ys) (ks ++ ls) := by
  unfold Within keys
  rw [List.map_append]
  exact List.Sublist.append hx hy

theorem Within.distinct {ms : Members} {ks : List String} (h : Within ms ks) (hk : ks.Nodup) : Distinct ms :=
  hk.sublist h

theorem Within.get?_eq_none {ms : Members} {ks : List String} {key : String} (h : Within ms ks) (hk : key ∉ ks) :
    get? key (.obj ms) = none :=
  Json.get?_eq_none fun hmem => hk (h.subset hmem)

section Written

variable {α : Type} (k : String) (encode : α → Json)

theorem within_member (v : Json) : Within (member k v) [k] := List.Sublist.refl _

theorem within_memberSome (o : Option α) : Within (memberSome k encode o) [k] := by
  cases o with
  | none => exact List.nil_sublist _
  | some a => exact List.Sublist.refl _

theorem within_memberFlag (b : Bool) : Within (memberFlag k b) [k] := by
  cases b with
  | false => exact List.nil_sublist _
  | true => exact List.Sublist.refl _

end Written

end InteractionKit.Json
