import Mathlib.Data.List.Find
import Mathlib.Data.List.Forall2
import Mathlib.Data.List.Nodup
/-
Lists whose entries go together, and the last entry that speaks to a question.

Two lists may go together entry by entry, or hold the same entries in another order. Either way what is found in one tells
what is found in the other.

- `forall₂_exists_of_mem`, `forall₂_find?`: entries that go together one by one.
- `find?_of_perm`: entries in another order, looked up by a key that none of them shares.
- `lastWord`: the last entry that has an answer, and this answer.
-/
namespace InteractionKit

variable {α β : Type}

section Together

variable {R : α → β → Prop} {as : List α} {bs : List β} (h : List.Forall₂ R as bs)

include h

/-- of two lists that go together each item goes with one of the other -/
theorem forall₂_exists_of_mem : (∀ a ∈ as, ∃ b ∈ bs, R a b) ∧ ∀ b ∈ bs, ∃ a ∈ as, R a b := by
  induction h with
  | nil => simp
  | @cons a b as bs hab _ ih =>
    refine ⟨List.forall_mem_cons.2 ⟨⟨b, List.mem_cons_self, hab⟩, fun c hc => ?_⟩,
      List.forall_mem_cons.2 ⟨⟨a, List.mem_cons_self, hab⟩, fun c hc => ?_⟩⟩
    · obtain ⟨d, hd, hcd⟩ := ih.1 c hc
      exact ⟨d, List.mem_cons_of_mem _ hd, hcd⟩
    · obtain ⟨d, hd, hdc⟩ := ih.2 c hc
      exact ⟨d, List.mem_cons_of_mem _ hd, hdc⟩

/-- the first items that fit go together, if items that go together fit alike -/
theorem forall₂_find? {p : α → Bool} {q : β → Bool} (hpq : ∀ a b, R a b → q b = p a) {a : α}
    (ha : as.find? p = some a) : ∃ b, bs.find? q = some b ∧ R a b := by
  induction h with
  | nil => cases ha
  | @cons c d as bs hcd _ ih =>
    rw [List.find?_cons] at ha ⊢
    rw [hpq c d hcd]
    split at ha
    · cases ha
      exact ⟨d, rfl, hcd⟩
    · exact ih ha

end Together

/-- entries that are looked up by a key are found in any order, if no key stands twice -/
theorem find?_of_perm {key : α → β} {xs ys : List α} (h : xs.Perm ys) (hnodup : (xs.map key).Nodup) {p : α → Bool}
    {k : β} (hp : ∀ a, p a = true → key a = k) : xs.find? p = ys.find? p := by
  refine List.find?_eq_find?_of_perm h ?_
  rintro a ⟨ha, hpa⟩ b ⟨hb, hpb⟩
  exact List.inj_on_of_nodup_map hnodup ha hb ((hp a hpa).trans (hp b hpb).symm)

/-! ## The last word -/

section LastWord

variable {f : β → Option α}

/-- the answer of the last of some things that has one -/
def lastWord (f : β → Option α) (ns : List β) : Option α := ns.reverse.findSome? f

theorem lastWord_append (ns ms : List β) : lastWord f (ns ++ ms) = (lastWord f ms).or (lastWord f ns) := by
  unfold lastWord
  rw [List.reverse_append, List.findSome?_append]

theorem lastWord_singleton (n : β) : lastWord f [n] = f n := by
  cases h : f n with
  | none => simp [lastWord, h]
  | some a => simp [lastWord, h]

theorem lastWord_eq_none_iff {ns : List β} : lastWord f ns = none ↔ ∀ n ∈ ns, f n = none := by
  simp [lastWord]

theorem exists_of_lastWord {ns : List β} {a : α} (h : lastWord f ns = some a) : ∃ n ∈ ns, f n = some a := by
  obtain ⟨n, hn, ha⟩ := List.exists_of_findSome?_eq_some h
  exact ⟨n, List.mem_reverse.1 hn, ha⟩

/-- one answer is enough for a last word -/
theorem lastWord_isSome {ns : List β} {n : β} {a : α} (hn : n ∈ ns) (h : f n = some a) : (lastWord f ns).isSome := by
  by_contra hnone
  rw [Option.not_isSome_iff_eq_none, lastWord_eq_none_iff] at hnone
  rw [hnone n hn] at h
  cases h

end LastWord

end InteractionKit
