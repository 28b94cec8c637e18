import InteractionKit.Guild
import Mathlib.Data.List.Nodup
/-
The order of roles, and the highest of them.

Roles rank by position and then by age, and by nothing else. So the order is a total one on positions and ids, and two
roles rank equal just when they share both: a role and the same role under another name do. Among roles with ids of their
own only a role itself ranks equal to it, so there some of them have one highest. Neither the order of the roles nor that
of the ids they are chosen by can change it, and it only rises when more are chosen.

- `Role.Below`: a lower rank, by position and id.
- `Role.compare_eq_lt_iff`, `Role.compare_eq_eq_iff`: the order by its two keys.
- `role_order`: the laws of the order. `renamed_role_ranks_equal`: what it does not tell apart.
- `Role.highest?_eq_some_iff`: the highest of roles with ids of their own.
- `highest_role_unique`: the highest role of a member.
-/
namespace InteractionKit

namespace Role

variable {a b c : Role}

/-! ## The order -/

/-- a lower rank: a lower position, or a higher id at the same position -/
def Below (a b : Role) : Prop := a.position < b.position ∨ a.position = b.position ∧ b.id.val < a.id.val

theorem compare_eq_lt_iff : a.compare b = .lt ↔ a.Below b := by
  simp only [compare, Id.compare, Below, Ordering.then_eq_lt, Int.compare_eq_lt, Nat.compare_eq_lt,
    Std.LawfulEqOrd.compare_eq_iff_eq, Int64.lt_iff_toInt_lt, Int64.toInt_inj]

theorem compare_eq_eq_iff : a.compare b = .eq ↔ a.position = b.position ∧ a.id = b.id := by
  have hid : b.id.val = a.id.val ↔ a.id = b.id := ⟨fun h => Id.ext_val h.symm, fun h => by rw [h]⟩
  simp only [compare, Id.compare, Ordering.then_eq_eq, Std.LawfulEqOrd.compare_eq_iff_eq, Int64.toInt_inj, hid]

/-- positions in their order, and behind them ids in the reverse of theirs -/
instance : Std.TransCmp Role.compare :=
  inferInstanceAs (Std.TransCmp (compareLex (compareOn fun r : Role => r.position.toInt)
    fun a b => compareOn (fun r : Role => r.id.val) b a))

theorem compare_swap (a b : Role) : b.compare a = (a.compare b).swap := Std.OrientedCmp.eq_swap

theorem Below.asymm (h : a.Below b) : ¬ b.Below a := by
  rw [← compare_eq_lt_iff] at h ⊢
  rw [compare_swap, h]
  decide

theorem le_iff : a.le b = true ↔ (a.compare b).isLE = true := by
  unfold le
  cases a.compare b <;> decide

theorem le_total (a b : Role) : a.le b = true ∨ b.le a = true := by
  rw [le_iff, le_iff, compare_swap a b]
  cases a.compare b <;> decide

theorem le_trans (hab : a.le b = true) (hbc : b.le c = true) : a.le c = true :=
  le_iff.2 (Std.TransCmp.isLE_trans (le_iff.1 hab) (le_iff.1 hbc))

theorem le_refl (a : Role) : a.le a = true := or_self_iff.1 (le_total a a)

theorem compare_trans {o : Ordering} (hab : a.compare b = o) (hbc : b.compare c = o) : a.compare c = o := by
  cases o with
  | lt => exact Std.TransCmp.lt_trans hab hbc
  | eq => exact Std.TransCmp.eq_trans hab hbc
  | gt => exact Std.TransCmp.gt_trans hab hbc

/-- among roles with ids of their own only a role itself ranks equal to it -/
theorem compare_eq_eq_iff_of_nodup {rs : List Role} (h : (rs.map Role.id).Nodup) (ha : a ∈ rs) (hb : b ∈ rs) :
    a.compare b = .eq ↔ a = b := by
  rw [compare_eq_eq_iff]
  constructor
  · rintro ⟨-, hid⟩
    exact List.inj_on_of_nodup_map h ha hb hid
  · rintro rfl
    exact ⟨rfl, rfl⟩

end Role

/-- **The order of roles.** It is total and transitive, each way round the reverse of the other, and compares every two
roles. Two roles rank equal just when they have one position and one id, so among roles with ids of their own just when
they are one. -/
theorem role_order (a b c : Role) :
    (a.le b = true ∨ b.le a = true) ∧
    (a.le b = true → b.le c = true → a.le c = true) ∧
    (∀ o, a.compare b = o → b.compare c = o → a.compare c = o) ∧
    b.compare a = (a.compare b).swap ∧
    a.partialCompare? b = some (a.compare b) ∧
    (a.compare b = .eq ↔ a.position = b.position ∧ a.id = b.id) ∧
    ∀ rs : List Role, (rs.map Role.id).Nodup → a ∈ rs → b ∈ rs → (a.compare b = .eq ↔ a = b) :=
  ⟨Role.le_total a b, Role.le_trans, fun _ => Role.compare_trans, Role.compare_swap a b, rfl, Role.compare_eq_eq_iff,
    fun _ => Role.compare_eq_eq_iff_of_nodup⟩

def porter : Role := { Role.stub ⟨123, by decide, by decide⟩ with name := "porter" }

/-- the order does not tell a role from the same role under a new name -/
theorem renamed_role_ranks_equal :
    ¬ (porter.compare { porter with name := "keeper" } = .eq ↔ porter = { porter with name := "keeper" }) := by
  decide

def prior : Role := { Role.stub ⟨124, by decide, by decide⟩ with name := "prior", position := 2 }

/-- at the position of the prior, and younger -/
def cellarer : Role := { Role.stub ⟨125, by decide, by decide⟩ with name := "cellarer", position := 2 }

theorem role_order_elders :
    ([prior, cellarer].map Role.id).Nodup ∧ (prior.compare cellarer = .eq ↔ prior = cellarer) := by
  have hdistinct : ([prior, cellarer].map Role.id).Nodup := by decide
  obtain ⟨-, -, -, -, -, -, hown⟩ := role_order prior cellarer prior
  exact ⟨hdistinct, hown [prior, cellarer] hdistinct (by decide) (by decide)⟩

/-! ## The highest of some roles -/

namespace Role

variable {m : Role} {rs : List Role}

/-- the higher of two roles, of equals the second -/
def higher (a b : Role) : Role := if a.le b then b else a

theorem highest?_cons (r : Role) (rs : List Role) : highest? (r :: rs) = some (rs.foldl higher r) := rfl

theorem higher_eq (a b : Role) : higher a b = a ∨ higher a b = b := by
  unfold higher
  split
  · exact .inr rfl
  · exact .inl rfl

theorem le_higher (a b : Role) : a.le (higher a b) = true ∧ b.le (higher a b) = true := by
  unfold higher
  split
  · next h => exact ⟨h, b.le_refl⟩
  · next h => exact ⟨a.le_refl, (le_total a b).resolve_left h⟩

theorem foldl_higher_mem (r : Role) (rs : List Role) : rs.foldl higher r ∈ r :: rs := by
  induction rs generalizing r with
  | nil => exact List.mem_cons_self
  | cons s rs ih =>
    rw [List.foldl_cons]
    rcases List.mem_cons.1 (ih (higher r s)) with h | h
    · rw [h]
      rcases higher_eq r s with hr | hs
      · rw [hr]
        exact List.mem_cons_self
      · rw [hs]
        exact List.mem_cons_of_mem _ List.mem_cons_self
    · exact List.mem_cons_of_mem _ (List.mem_cons_of_mem _ h)

theorem le_foldl_higher (r : Role) (rs : List Role) : ∀ s ∈ r :: rs, s.le (rs.foldl higher r) = true := by
  induction rs generalizing r with
  | nil =>
    intro s hs
    rw [List.mem_singleton.1 hs]
    exact r.le_refl
  | cons t rs ih =>
    have hrt : (higher r t).le (rs.foldl higher (higher r t)) = true := ih _ _ List.mem_cons_self
    intro s hs
    rw [List.foldl_cons]
    rcases List.mem_cons.1 hs with rfl | hs
    · exact le_trans (le_higher s t).1 hrt
    · rcases List.mem_cons.1 hs with rfl | hs
      · exact le_trans (le_higher r s).2 hrt
      · exact ih _ s (List.mem_cons_of_mem _ hs)

theorem highest?_eq_none_iff : highest? rs = none ↔ rs = [] := by
  cases rs with
  | nil => simp [highest?]
  | cons r rs => simp [highest?_cons]

theorem highest?_mem (h : highest? rs = some m) : m ∈ rs := by
  cases rs with
  | nil => cases h
  | cons r rs =>
    obtain rfl := Option.some.inj h
    exact foldl_higher_mem r rs

theorem le_highest? (h : highest? rs = some m) : ∀ r ∈ rs, r.le m = true := by
  cases rs with
  | nil => cases h
  | cons r rs =>
    obtain rfl := Option.some.inj h
    exact le_foldl_higher r rs

/-- the highest of roles with ids of their own is the one that all others rank below -/
theorem highest?_eq_some_iff (hdistinct : (rs.map Role.id).Nodup) :
    highest? rs = some m ↔ m ∈ rs ∧ ∀ r ∈ rs, r ≠ m → r.Below m := by
  have hbelow : ∀ {n}, highest? rs = some n → ∀ r ∈ rs, r ≠ n → r.Below n := by
    intro n hn r hr hne
    have hle := le_iff.1 (le_highest? hn r hr)
    rcases Ordering.isLE_iff_eq_lt_or_eq_eq.1 hle with hlt | heq
    · exact compare_eq_lt_iff.1 hlt
    · exact absurd ((compare_eq_eq_iff_of_nodup hdistinct hr (highest?_mem hn)).1 heq) hne
  refine ⟨fun h => ⟨highest?_mem h, hbelow h⟩, fun ⟨hm, hall⟩ => ?_⟩
  cases h : highest? rs with
  | none =>
    rw [highest?_eq_none_iff.1 h] at hm
    cases hm
  | some n =>
    by_cases hnm : n = m
    · rw [hnm]
    · exact absurd (hbelow h m hm (Ne.symm hnm)) (hall n (highest?_mem h) hnm).asymm

end Role

namespace Guild

variable {g : Guild}

theorem highestRole?_eq_none_iff {ids : List RoleId} : g.highestRole? ids = none ↔ ∀ r ∈ g.roles, r.id ∉ ids := by
  rw [highestRole?, Role.highest?_eq_none_iff, List.filter_eq_nil_iff]
  simp only [decide_eq_true_eq]

theorem highestRole?_eq_some_iff (hdistinct : (g.roles.map Role.id).Nodup) (ids : List RoleId) (m : Role) :
    g.highestRole? ids = some m ↔
      (m ∈ g.roles ∧ m.id ∈ ids) ∧ ∀ r ∈ g.roles, r.id ∈ ids → r ≠ m → r.Below m := by
  have hchosen : ((g.roles.filter fun r => r.id ∈ ids).map Role.id).Nodup :=
    hdistinct.sublist (List.filter_sublist.map Role.id)
  rw [highestRole?, Role.highest?_eq_some_iff hchosen]
  simp only [List.mem_filter, decide_eq_true_eq, and_imp]

end Guild

/-! ## Main result -/

/-- **The highest role.** In a guild whose roles have ids of their own, a member who lists none of them has no highest
role. Any other has the one listed role of the guild that all other listed ones rank below: they have a lower position,
or a higher id at the same one. In whichever order the guild has its roles, and however often and in whichever order a
member lists them, it is the same role; and whoever lists more has the same or a higher one. -/
theorem highest_role_unique {g : Guild} (hdistinct : (g.roles.map Role.id).Nodup) (ids : List RoleId) :
    (g.highestRole? ids = none ↔ ∀ r ∈ g.roles, r.id ∉ ids) ∧
    (∀ m, g.highestRole? ids = some m ↔ (m ∈ g.roles ∧ m.id ∈ ids) ∧ ∀ r ∈ g.roles, r.id ∈ ids → r ≠ m →
      r.position < m.position ∨ r.position = m.position ∧ m.id.val < r.id.val) ∧
    (∀ (g' : Guild) (ids' : List RoleId), g'.roles.Perm g.roles → (∀ i, i ∈ ids' ↔ i ∈ ids) →
      g'.highestRole? ids' = g.highestRole? ids) ∧
    ∀ more, ids ⊆ more → ∀ m, g.highestRole? ids = some m →
      ∃ m', g.highestRole? more = some m' ∧ (m' = m ∨ m.Below m') := by
  have hiff := Guild.highestRole?_eq_some_iff hdistinct
  refine ⟨Guild.highestRole?_eq_none_iff, hiff ids, fun g' ids' hperm hids => ?_, fun more hmore m hm => ?_⟩
  · have hdistinct' : (g'.roles.map Role.id).Nodup := (hperm.map Role.id).nodup_iff.2 hdistinct
    ext m
    simp only [Guild.highestRole?_eq_some_iff hdistinct', hiff, hperm.mem_iff, hids]
  · have hlisted := ((hiff ids m).1 hm).1
    cases h : g.highestRole? more with
    | none => exact absurd (hmore hlisted.2) (Guild.highestRole?_eq_none_iff.1 h m hlisted.1)
    | some m' =>
      refine ⟨m', rfl, ?_⟩
      by_cases hm' : m = m'
      · exact .inl hm'.symm
      · exact .inr (((hiff more m').1 h).2 m hlisted.1 (hmore hlisted.2) hm')

def novice : Role := { Role.stub ⟨126, by decide, by decide⟩ with name := "novice", position := -3 }

def friary : Guild where
  id := ⟨127, by decide, by decide⟩
  name := "friary"
  ownerId := ⟨128, by decide, by decide⟩
  icon := none
  roles := [novice, prior, cellarer]
  channels := []
  threads := []
  members := []
  unavailable := false

theorem highest_role_unique_friary : (friary.roles.map Role.id).Nodup ∧
    friary.highestRole? [cellarer.id, novice.id, prior.id, cellarer.id] = some prior := by
  have hdistinct : (friary.roles.map Role.id).Nodup := by decide
  obtain ⟨-, hhighest, -, -⟩ := highest_role_unique hdistinct [cellarer.id, novice.id, prior.id, cellarer.id]
  exact ⟨hdistinct, (hhighest prior).2 ⟨by decide, by decide⟩⟩

end InteractionKit
