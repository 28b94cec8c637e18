import InteractionKit.Json.Basic
import Mathlib.Data.String.Basic
/-
A stored value is stored as itself.

Storing puts the members of an object in strictly rising order of their keys, each with a stored value. Members that
stand like that are put one behind the other and none over another, so storing them again gives them back.

- `Json.Settled`: members in strictly rising order whose values are stored.
- `settled_canonicalMembers`: storing settles members.
- `canonicalMembers_of_settled`: settled members are stored as they stand.
- `canonical_canonical`: storing twice is storing once.
-/
namespace InteractionKit.Json

/-- members in strictly rising order of their keys, each with a value in its stored form -/
structure Settled (ms : Members) : Prop where
  rising : ms.Pairwise fun p q => p.1 < q.1
  stored : ∀ p ∈ ms, p.2.canonical = p.2

theorem settled_nil : Settled [] := ⟨.nil, by simp⟩

/-! ## Putting in one member -/

theorem mem_insertMember {k : String} {v : Json} {ms : Members} {p : String × Json} (h : p ∈ insertMember k v ms) :
    p = (k, v) ∨ p ∈ ms := by
  induction ms with
  | nil => exact .inl (List.mem_singleton.1 h)
  | cons q ms ih =>
    obtain ⟨l, w⟩ := q
    simp only [insertMember] at h
    split at h
    · exact List.mem_cons.1 h
    · split at h
      · rcases List.mem_cons.1 h with h | h
        · exact .inl h
        · exact .inr (List.mem_cons_of_mem _ h)
      · rcases List.mem_cons.1 h with h | h
        · exact .inr (List.mem_cons.2 (.inl h))
        · rcases ih h with h | h
          · exact .inl h
          · exact .inr (List.mem_cons_of_mem _ h)

theorem rising_insertMember {k : String} {v : Json} {ms : Members} (h : ms.Pairwise fun p q => p.1 < q.1) :
    (insertMember k v ms).Pairwise fun p q => p.1 < q.1 := by
  induction ms with
  | nil => exact List.pairwise_singleton _ _
  | cons q ms ih =>
    obtain ⟨l, w⟩ := q
    obtain ⟨hl, hms⟩ := List.pairwise_cons.1 h
    simp only [insertMember]
    split
    · next hkl =>
      refine List.pairwise_cons.2 ⟨fun p hp => ?_, h⟩
      rcases List.mem_cons.1 hp with rfl | hp
      · exact hkl
      · exact lt_trans hkl (hl p hp)
    · next hkl =>
      split
      · next heq => exact List.pairwise_cons.2 ⟨fun p hp => heq ▸ hl p hp, hms⟩
      · next hne =>
        have hlk : l < k := lt_of_le_of_ne (not_lt.1 hkl) (Ne.symm hne)
        refine List.pairwise_cons.2 ⟨fun p hp => ?_, ih hms⟩
        rcases mem_insertMember hp with rfl | hp
        · exact hlk
        · exact hl p hp

theorem Settled.insertMember {k : String} {v : Json} {ms : Members} (h : Settled ms) (hv : v.canonical = v) :
    Settled (insertMember k v ms) := by
  refine ⟨rising_insertMember h.rising, fun p hp => ?_⟩
  rcases mem_insertMember hp with rfl | hp
  · exact hv
  · exact h.stored p hp

/-- a member behind all others is put at the end -/
theorem insertMember_last {k : String} {v : Json} {ms : Members} (h : ∀ p ∈ ms, p.1 < k) :
    insertMember k v ms = ms ++ [(k, v)] := by
  induction ms with
  | nil => rfl
  | cons q ms ih =>
    obtain ⟨l, w⟩ := q
    have hl : l < k := h (l, w) List.mem_cons_self
    simp only [Json.insertMember, if_neg (lt_asymm hl), if_neg (ne_of_gt hl), List.cons_append]
    rw [ih fun p hp => h p (List.mem_cons_of_mem _ hp)]

/-! ## Storing twice -/

theorem canonicalMembers_of_settled {sorted ms : Members} (h : Settled (sorted ++ ms)) :
    canonicalMembers sorted ms = sorted ++ ms := by
  induction ms generalizing sorted with
  | nil => simp [canonicalMembers]
  | cons q ms ih =>
    obtain ⟨k, v⟩ := q
    have hbefore : ∀ p ∈ sorted, p.1 < k := fun p hp =>
      (List.pairwise_append.1 h.rising).2.2 p hp (k, v) List.mem_cons_self
    have hv : v.canonical = v := h.stored (k, v) (by simp)
    have hsplit : sorted ++ (k, v) :: ms = sorted ++ [(k, v)] ++ ms := by simp
    rw [canonicalMembers, hv, insertMember_last hbefore, hsplit]
    exact ih (hsplit ▸ h)

mutual
/-- a stored value is stored as itself -/
theorem canonical_canonical : (v : Json) → v.canonical.canonical = v.canonical
  | .null | .bool _ | .int _ | .float _ | .str _ => rfl
  | .arr xs => by rw [canonical, canonical, canonicalItems_canonicalItems xs]
  | .obj ms => by
    have hsettled : Settled ([] ++ canonicalMembers [] ms) := settled_canonicalMembers ms settled_nil
    rw [canonical, canonical, canonicalMembers_of_settled hsettled, List.nil_append]
theorem canonicalItems_canonicalItems : (xs : List Json) → canonicalItems (canonicalItems xs) = canonicalItems xs
  | [] => rfl
  | x :: xs => by
    simp only [canonicalItems]
    rw [canonical_canonical x, canonicalItems_canonicalItems xs]
/-- storing settles members, among settled ones -/
theorem settled_canonicalMembers : (ms : Members) → {sorted : Members} → Settled sorted →
    Settled (canonicalMembers sorted ms)
  | [], _, h => h
  | (_, v) :: ms, _, h => settled_canonicalMembers ms (h.insertMember (canonical_canonical v))
end

/-- only `null` is stored as `null` -/
theorem canonical_eq_null {v : Json} (h : v.canonical = .null) : v = .null := by
  cases v with
  | null => rfl
  | arr xs => cases h
  | obj ms => cases h
  | _ => exact h

end InteractionKit.Json
