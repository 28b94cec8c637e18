import InteractionKit.Permissions
/-
Permission sets as sets of flags.

A set of permissions is 64 bits, and every operation on sets is one on words. Here each operation is stated by the flags
it leaves in, for flags with and without a name.

- `Permissions.ext_flags`: two sets with the same flags are equal.
- `mem_union`, `mem_diff`, `mem_unions`: which flags an operation leaves in.
- `has_iff`: the test for a named permission is membership of its flag.
-/
namespace InteractionKit

/-- the place of a flag in the sets -/
abbrev Flag := Fin 64

/-- where a union holds the flags of both sets, a fold of unions holds those of the first set and of every entry -/
theorem Flag.mem_foldl_union {σ : Type} [Union σ] [Membership Flag σ]
    (hunion : ∀ (a b : σ) (f : Flag), f ∈ a ∪ b ↔ f ∈ a ∨ f ∈ b) {α : Type} (sets : α → σ) (xs : List α) (a : σ)
    (f : Flag) : f ∈ xs.foldl (fun a x => a ∪ sets x) a ↔ f ∈ a ∨ ∃ x ∈ xs, f ∈ sets x := by
  induction xs generalizing a with
  | nil => simp
  | cons x xs ih =>
    rw [List.foldl_cons, ih, hunion]
    simp [or_assoc]

/-- the flag of a named permission -/
def Permission.flag (p : Permission) : Flag := ⟨p.bit, p.bit_lt⟩

namespace Permissions

instance : Membership Flag Permissions := ⟨fun a b => a.bits.getLsbD b.val = true⟩

theorem mem_def {a : Permissions} {b : Flag} : b ∈ a ↔ a.bits.getLsbD b.val = true := Iff.rfl

instance (a : Permissions) (b : Flag) : Decidable (b ∈ a) := inferInstanceAs (Decidable (a.bits.getLsbD b.val = true))

/-- two sets with the same flags are equal -/
theorem ext_flags {a b : Permissions} (h : ∀ f : Flag, f ∈ a ↔ f ∈ b) : a = b := by
  obtain ⟨v⟩ := a
  obtain ⟨w⟩ := b
  have hbits : v = w := by
    refine BitVec.eq_of_getLsbD_eq fun i hi => ?_
    exact Bool.eq_iff_iff.2 (h ⟨i, hi⟩)
  rw [hbits]

/-! ## Operations -/

@[simp] theorem not_mem_empty (f : Flag) : f ∉ empty := by
  rw [mem_def]
  simp [empty]

@[simp] theorem mem_union {a b : Permissions} {f : Flag} : f ∈ a ∪ b ↔ f ∈ a ∨ f ∈ b := by
  change (a.bits ||| b.bits).getLsbD f.val = true ↔ _
  rw [BitVec.getLsbD_or, Bool.or_eq_true]
  rfl

@[simp] theorem mem_diff {a b : Permissions} {f : Flag} : f ∈ a \ b ↔ f ∈ a ∧ f ∉ b := by
  change (a.bits &&& ~~~b.bits).getLsbD f.val = true ↔ _
  rw [BitVec.getLsbD_and, BitVec.getLsbD_not, Bool.and_eq_true]
  simp [mem_def]

@[simp] theorem mem_single {p : Permission} {f : Flag} : f ∈ single p ↔ p.flag = f := by
  change (BitVec.twoPow 64 p.bit).getLsbD f.val = true ↔ _
  rw [BitVec.getLsbD_twoPow, Bool.and_eq_true, decide_eq_true_iff, decide_eq_true_iff]
  exact ⟨fun h => Fin.ext h.2, fun h => ⟨p.bit_lt, congrArg Fin.val h⟩⟩

/-- uniting the sets of some entries with a set leaves in what the set or one of the entries holds -/
theorem mem_foldl_union {α : Type} (perms : α → Permissions) (xs : List α) (a : Permissions) (f : Flag) :
    f ∈ xs.foldl (fun a x => a ∪ perms x) a ↔ f ∈ a ∨ ∃ x ∈ xs, f ∈ perms x :=
  Flag.mem_foldl_union (fun _ _ _ => mem_union) perms xs a f

theorem mem_unions {as : List Permissions} {f : Flag} : f ∈ unions as ↔ ∃ a ∈ as, f ∈ a := by
  simpa [unions] using mem_foldl_union id as empty f

/-! ## Tests -/

/-- one set contains another if it has each of its flags -/
theorem contains_iff {a b : Permissions} : a.contains b = true ↔ ∀ f : Flag, f ∈ b → f ∈ a := by
  unfold contains
  rw [decide_eq_true_iff]
  constructor
  · intro h f hf
    rw [mem_def, ← h, BitVec.getLsbD_and, Bool.and_eq_true] at hf
    exact hf.1
  · intro h
    refine BitVec.eq_of_getLsbD_eq fun i hi => ?_
    have hi' := h ⟨i, hi⟩
    rw [mem_def, mem_def] at hi'
    rw [BitVec.getLsbD_and]
    cases hb : b.bits.getLsbD i
    · rw [Bool.and_false]
    · rw [hi' hb, Bool.and_true]

/-- the test for a named permission is membership of its flag -/
theorem has_iff {a : Permissions} {p : Permission} : a.has p = true ↔ p.flag ∈ a := by
  unfold has
  rw [contains_iff]
  constructor
  · intro h
    exact h p.flag (mem_single.2 rfl)
  · intro h f hf
    rw [← mem_single.1 hf]
    exact h

end Permissions

end InteractionKit
