import InteractionKit.Id
/-
Finite tables over the ids of one kind of resource.

The entries stand in the order of their ids, one for each, so that two tables with the same answers are equal.

- `Table.get?`, `insert`, `erase`, `filterKeys`, `modify`.
- `mem_keys`, `get?_insert`, `get?_erase`, `get?_modify`: what each operation does to the answers.
- `ext_get?`: tables with the same answers are equal.
- `insert_insert`, `insert_insert_insert`, `erase_erase`, `modify_modify`: what a change made again does.
- `insertAll_of_perm`: the entries of a table make the table, in whatever order they are put in.
-/
namespace InteractionKit

/-- one value for each of finitely many ids -/
structure Table (k : Resource) (α : Type) where
  entries : List (Id k × α)
  sorted : entries.Pairwise fun p q => p.1.val < q.1.val
deriving DecidableEq

namespace Table

variable {k : Resource} {α β : Type}

def empty : Table k α := ⟨[], .nil⟩

def isEmpty (t : Table k α) : Bool := t.entries.isEmpty

def keys (t : Table k α) : List (Id k) := t.entries.map Prod.fst

/-! ## Entries -/

def lookup (a : Id k) : List (Id k × α) → Option α
  | [] => none
  | (b, x) :: r => if a = b then some x else lookup a r

/-- puts an entry in its place, over the one with the same id -/
def insertEntry (a : Id k) (x : α) : List (Id k × α) → List (Id k × α)
  | [] => [(a, x)]
  | (b, y) :: r =>
    if a.val < b.val then (a, x) :: (b, y) :: r
    else if a = b then (a, x) :: r
    else (b, y) :: insertEntry a x r

theorem fst_mem_insertEntry {a : Id k} {x : α} {es : List (Id k × α)} {p : Id k × α}
    (h : p ∈ insertEntry a x es) : p = (a, x) ∨ p ∈ es := by
  induction es with
  | nil => simpa [insertEntry] using h
  | cons e r ih =>
    obtain ⟨b, y⟩ := e
    simp only [insertEntry] at h
    split at h
    · simpa using h
    · split at h
      · rcases List.mem_cons.1 h with h | h
        · exact .inl h
        · exact .inr (List.mem_cons_of_mem _ h)
      · rcases List.mem_cons.1 h with h | h
        · exact .inr (h ▸ List.mem_cons_self)
        · rcases ih h with h | h
          · exact .inl h
          · exact .inr (List.mem_cons_of_mem _ h)

theorem sorted_insertEntry (a : Id k) (x : α) (es : List (Id k × α))
    (h : es.Pairwise fun p q => p.1.val < q.1.val) :
    (insertEntry a x es).Pairwise fun p q => p.1.val < q.1.val := by
  induction es with
  | nil => simp [insertEntry]
  | cons e r ih =>
    obtain ⟨b, y⟩ := e
    have hb := List.pairwise_cons.1 h
    simp only [insertEntry]
    split
    · next hlt =>
      refine List.pairwise_cons.2 ⟨fun p hp => ?_, h⟩
      rcases List.mem_cons.1 hp with rfl | hp
      · exact hlt
      · exact Nat.lt_trans hlt (hb.1 p hp)
    · split
      · next heq => exact List.pairwise_cons.2 ⟨fun p hp => heq ▸ hb.1 p hp, hb.2⟩
      · next hlt hne =>
        refine List.pairwise_cons.2 ⟨fun p hp => ?_, ih hb.2⟩
        rcases fst_mem_insertEntry hp with rfl | hp
        · have : a.val ≠ b.val := fun h => hne (Id.ext_val h)
          show b.val < a.val
          omega
        · exact hb.1 p hp

theorem lookup_insertEntry (a b : Id k) (x : α) (es : List (Id k × α)) :
    lookup b (insertEntry a x es) = if b = a then some x else lookup b es := by
  induction es with
  | nil => rfl
  | cons e r ih =>
    obtain ⟨c, y⟩ := e
    simp only [insertEntry]
    split
    · rfl
    · split
      · next hac =>
        subst hac
        by_cases hb : b = a <;> simp [lookup, hb]
      · next hac =>
        simp only [lookup, ih]
        by_cases hb : b = c
        · have : b ≠ a := fun h => hac (h ▸ hb)
          simp [hb, hb ▸ this]
        · simp [hb]

theorem lookup_filter (p : Id k → Bool) (b : Id k) (es : List (Id k × α)) :
    lookup b (es.filter fun e => p e.1) = if p b then lookup b es else none := by
  induction es with
  | nil => simp [lookup]
  | cons e r ih =>
    obtain ⟨c, y⟩ := e
    simp only [List.filter_cons]
    split
    · next hc =>
      by_cases hb : b = c
      · simp [lookup, hb, hc]
      · simp [lookup, hb, ih]
    · next hc =>
      rw [ih]
      by_cases hb : b = c
      · simp [hb, hc]
      · simp [lookup, hb]

theorem isSome_lookup (a : Id k) (es : List (Id k × α)) : (lookup a es).isSome ↔ a ∈ es.map Prod.fst := by
  induction es with
  | nil => simp [lookup]
  | cons e r ih =>
    obtain ⟨b, y⟩ := e
    simp only [lookup, List.map_cons, List.mem_cons]
    split
    · next h => simp [h]
    · next h => simp [h, ih]

/-- an id below every entry has none -/
theorem lookup_eq_none_of_lt {b : Id k} {es : List (Id k × α)} (h : ∀ e ∈ es, b.val < e.1.val) :
    lookup b es = none := by
  induction es with
  | nil => rfl
  | cons e r ih =>
    obtain ⟨c, y⟩ := e
    have hc : b.val < c.val := h (c, y) List.mem_cons_self
    have hne : b ≠ c := fun heq => by rw [heq] at hc; omega
    simp only [lookup, hne, if_false]
    exact ih fun e he => h e (List.mem_cons_of_mem _ he)

theorem eq_of_lookup {es fs : List (Id k × α)} (he : es.Pairwise fun p q => p.1.val < q.1.val)
    (hf : fs.Pairwise fun p q => p.1.val < q.1.val) (h : ∀ b, lookup b es = lookup b fs) : es = fs := by
  induction es generalizing fs with
  | nil =>
    cases fs with
    | nil => rfl
    | cons f _ => simpa [lookup] using h f.1
  | cons e r ih =>
    obtain ⟨a, x⟩ := e
    cases fs with
    | nil => simpa [lookup] using h a
    | cons f t =>
      obtain ⟨b, y⟩ := f
      have hr := List.pairwise_cons.1 he
      have ht := List.pairwise_cons.1 hf
      have hab : a = b := by
        apply Id.ext_val
        rcases Nat.lt_trichotomy a.val b.val with hlt | heq | hgt
        · have hnone : lookup a ((b, y) :: t) = none := lookup_eq_none_of_lt fun e he => by
            rcases List.mem_cons.1 he with rfl | he
            · exact hlt
            · exact Nat.lt_trans hlt (ht.1 e he)
          rw [← h a] at hnone
          simp [lookup] at hnone
        · exact heq
        · have hnone : lookup b ((a, x) :: r) = none := lookup_eq_none_of_lt fun e he => by
            rcases List.mem_cons.1 he with rfl | he
            · exact hgt
            · exact Nat.lt_trans hgt (hr.1 e he)
          rw [h b] at hnone
          simp [lookup] at hnone
      subst hab
      have hxy : x = y := by simpa [lookup] using h a
      subst hxy
      congr 1
      refine ih hr.2 ht.2 fun b => ?_
      by_cases hb : b = a
      · rw [hb, lookup_eq_none_of_lt hr.1, lookup_eq_none_of_lt ht.1]
      · simpa [lookup, hb] using h b

/-! ## Operations -/

def get? (t : Table k α) (a : Id k) : Option α := lookup a t.entries

def contains (t : Table k α) (a : Id k) : Bool := (t.get? a).isSome

def insert (t : Table k α) (a : Id k) (x : α) : Table k α :=
  ⟨insertEntry a x t.entries, sorted_insertEntry a x t.entries t.sorted⟩

/-- the entries whose ids pass a test -/
def filterKeys (t : Table k α) (p : Id k → Bool) : Table k α :=
  ⟨t.entries.filter fun e => p e.1, t.sorted.filter _⟩

def erase (t : Table k α) (a : Id k) : Table k α := t.filterKeys fun b => b ≠ a

/-- the table with every listed entry put in, in turn -/
def insertAll (t : Table k α) (es : List (Id k × α)) : Table k α := es.foldl (fun t e => t.insert e.1 e.2) t

/-- the table with the value of an id changed, if it has one -/
def modify (t : Table k α) (a : Id k) (f : α → α) : Table k α :=
  match t.get? a with
  | none => t
  | some x => t.insert a (f x)

/-! ## Answers -/

@[simp] theorem get?_empty (b : Id k) : (empty : Table k α).get? b = none := rfl

/-- the keys are the ids with an answer -/
theorem mem_keys {t : Table k α} {a : Id k} : a ∈ t.keys ↔ (t.get? a).isSome := (isSome_lookup a t.entries).symm

theorem get?_insert (t : Table k α) (a b : Id k) (x : α) :
    (t.insert a x).get? b = if b = a then some x else t.get? b := lookup_insertEntry a b x t.entries

theorem get?_filterKeys (t : Table k α) (p : Id k → Bool) (b : Id k) :
    (t.filterKeys p).get? b = if p b then t.get? b else none := lookup_filter p b t.entries

theorem get?_erase (t : Table k α) (a b : Id k) : (t.erase a).get? b = if b = a then none else t.get? b := by
  unfold erase
  rw [get?_filterKeys]
  by_cases h : b = a <;> simp [h]

theorem get?_modify (t : Table k α) (a b : Id k) (f : α → α) :
    (t.modify a f).get? b = if b = a then (t.get? a).map f else t.get? b := by
  unfold modify
  split
  · next h =>
    by_cases hb : b = a
    · simp [hb, h]
    · simp [hb]
  · next x h => rw [get?_insert, h, Option.map_some]

/-- tables with the same answers are equal -/
theorem ext_get? {t u : Table k α} (h : ∀ b, t.get? b = u.get? b) : t = u := by
  have he : t.entries = u.entries := eq_of_lookup t.sorted u.sorted h
  cases t
  cases u
  congr

/-! ## Changing an entry again -/

theorem insert_insert (t : Table k α) (a : Id k) (x y : α) : (t.insert a x).insert a y = t.insert a y := by
  refine ext_get? fun b => ?_
  simp only [get?_insert]
  split <;> rfl

/-- an entry that is put in again later need not be put in first -/
theorem insert_insert_insert (t : Table k α) (a b : Id k) (x y : α) :
    ((t.insert a x).insert b y).insert a x = (t.insert b y).insert a x := by
  refine ext_get? fun c => ?_
  simp only [get?_insert]
  by_cases hc : c = a <;> simp [hc]

theorem filterKeys_eq_self {t : Table k α} {p : Id k → Bool} (h : ∀ a, p a = true) : t.filterKeys p = t := by
  refine ext_get? fun a => ?_
  rw [get?_filterKeys, if_pos (h a)]

theorem erase_erase (t : Table k α) (a : Id k) : (t.erase a).erase a = t.erase a := by
  refine ext_get? fun b => ?_
  simp only [get?_erase]
  split <;> rfl

theorem modify_modify {f : α → α} (h : ∀ x, f (f x) = f x) (t : Table k α) (a : Id k) :
    (t.modify a f).modify a f = t.modify a f := by
  have hff : f ∘ f = f := funext h
  refine ext_get? fun b => ?_
  simp only [get?_modify, if_true, Option.map_map, hff]
  split <;> rfl

/-! ## Putting in many entries -/

theorem nodup_keys (t : Table k α) : t.keys.Nodup := by
  refine List.pairwise_map.2 (t.sorted.imp fun {p q} hlt heq => ?_)
  rw [heq] at hlt
  exact Nat.lt_irrefl _ hlt

theorem lookup_eq_some_iff {es : List (Id k × α)} (hn : (es.map Prod.fst).Nodup) {b : Id k} {x : α} :
    lookup b es = some x ↔ (b, x) ∈ es := by
  induction es with
  | nil => simp [lookup]
  | cons e r ih =>
    obtain ⟨a, y⟩ := e
    obtain ⟨ha, hr⟩ := List.nodup_cons.1 hn
    by_cases hb : b = a
    · have hnot : (a, x) ∉ r := fun hmem => ha (List.mem_map.2 ⟨_, hmem, rfl⟩)
      simp [lookup, hb, hnot, eq_comm]
    · simp [lookup, hb, ih hr]

theorem get?_insertAll {es : List (Id k × α)} (hn : (es.map Prod.fst).Nodup) (t : Table k α) (b : Id k) :
    (t.insertAll es).get? b = (lookup b es).or (t.get? b) := by
  induction es generalizing t with
  | nil => rfl
  | cons e r ih =>
    obtain ⟨a, x⟩ := e
    obtain ⟨ha, hr⟩ := List.nodup_cons.1 hn
    have hstep : (t.insertAll ((a, x) :: r)).get? b = (lookup b r).or (if b = a then some x else t.get? b) := by
      rw [← get?_insert]
      exact ih hr (t.insert a x)
    by_cases hb : b = a
    · have hnone : lookup b r = none := by
        rw [hb, ← Option.not_isSome_iff_eq_none, isSome_lookup]
        exact ha
      rw [hstep, hnone, if_pos hb, lookup, if_pos hb]; rfl
    · rw [hstep, if_neg hb, lookup, if_neg hb]

/-- the entries of a table make the table, in whatever order they are put in -/
theorem insertAll_of_perm {t : Table k α} {es : List (Id k × α)} (h : es.Perm t.entries) : empty.insertAll es = t := by
  have hn : (es.map Prod.fst).Nodup := (h.map Prod.fst).nodup_iff.2 t.nodup_keys
  refine ext_get? fun b => Option.ext fun x => ?_
  rw [get?_insertAll hn, get?_empty, Option.or_none, lookup_eq_some_iff hn, h.mem_iff, get?,
    lookup_eq_some_iff t.nodup_keys]

end Table

end InteractionKit
