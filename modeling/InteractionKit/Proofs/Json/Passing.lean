import InteractionKit.Proofs.Json.Children
/-
Two objects that differ in one member.

A reader passes over a member that none of its fields is named after. The member still counts as one to come, so a fault
that is met before it is met with one more member left, and of two faults the earlier one stays the earlier. A field that
is named after the member and never fails makes no fault either, but what is read may differ in it. And a member may be
exchanged for one of the same key, if the field of this name reads both alike.

- `Json.without`: the members under other keys.
- `Json.found`, `Json.exchanged`: what is found under a key of both objects.
- `Reading.Parallel`, `Reader.Parallel`: the same fault, or results that are related, with the member and without it.
- `parallel_field`, `parallel_own`: fields of other names, and the field of the member.
- `Parallel.seq`, `Parallel.pass`: from the fields to the record.
- `Parallel.decode`: both records are read, or both are refused for one fault.
- `Reader.Passes`, `Passes.decodeMembers_without`: members that no field is named after make no difference.
- `Reader.Blind`, `blind_field`: an exchanged member makes none, where its field reads both values alike.
-/
namespace InteractionKit

/-! ## Members under other keys -/

namespace Json

/-- the members under other keys -/
def without (key : String) (ms : Members) : Members := ms.filter fun p => p.1 ≠ key

@[simp] theorem without_cons_self (key : String) (v : Json) (ms : Members) :
    without key ((key, v) :: ms) = without key ms := List.filter_cons_of_neg (by simp)

theorem without_cons_of_ne {key name : String} (h : key ≠ name) (v : Json) (ms : Members) :
    without name ((key, v) :: ms) = (key, v) :: without name ms := List.filter_cons_of_pos (by simp [h])

theorem without_eq_self {key : String} {ms : Members} (h : key ∉ keys ms) : without key ms = ms := by
  refine List.filter_eq_self.2 fun p hp => decide_eq_true ?_
  rintro rfl
  exact h (List.mem_map.2 ⟨p, hp, rfl⟩)

/-- a key is looked up without the members of another -/
theorem get?_without {key name : String} (h : key ≠ name) (ms : Members) :
    get? key (.obj (without name ms)) = get? key (.obj ms) := by
  induction ms with
  | nil => rfl
  | cons p ms ih =>
    obtain ⟨k, v⟩ := p
    by_cases hname : k = name
    · subst hname
      rw [without_cons_self, ih, get?, get?, find, if_neg (Ne.symm h)]
    · simp only [get?] at ih
      simp only [without_cons_of_ne hname, get?, find]
      split
      · rfl
      · exact ih

/-- members that are alike under other keys are alike under each of them -/
theorem get?_of_without {key name : String} {ms ns : Members} (hkey : key ≠ name)
    (hms : without name ns = without name ms) : get? key (.obj ns) = get? key (.obj ms) := by
  rw [← get?_without hkey ns, hms, get?_without hkey ms]

/-- a member that is put in is one under its key -/
theorem without_insertMember (key : String) (v : Json) (ms : Members) :
    without key (insertMember key v ms) = without key ms := by
  induction ms with
  | nil => exact without_cons_self key v []
  | cons p ms ih =>
    obtain ⟨k, w⟩ := p
    rw [insertMember]
    split
    · exact without_cons_self key v _
    · split
      · next hk =>
        subst hk
        rw [without_cons_self, without_cons_self]
      · next hk => rw [without_cons_of_ne (Ne.symm hk), without_cons_of_ne (Ne.symm hk), ih]

section Around

variable {key : String} {before after : Members}

/-- a key of distinct members stands in one place -/
theorem exists_around {ms : Members} {v : Json} (hms : Distinct ms) (hv : get? key (.obj ms) = some v) :
    ∃ before after, ms = before ++ (key, v) :: after ∧ key ∉ keys before ∧ key ∉ keys after := by
  obtain ⟨before, after, rfl⟩ := List.append_of_mem (mem_of_get? hv)
  simp only [Distinct, keys, List.map_append, List.map_cons] at hms
  obtain ⟨-, hkey, hdisjoint⟩ := List.nodup_append'.1 hms
  refine ⟨before, after, rfl, fun hmem => hdisjoint hmem List.mem_cons_self, (List.nodup_cons.1 hkey).1⟩

theorem without_append_cons (v : Json) :
    without key (before ++ (key, v) :: after) = without key before ++ without key after := by
  rw [without, List.filter_append]
  exact congrArg _ (without_cons_self key v after)

theorem without_around {v : Json} (hbefore : key ∉ keys before)
    (hafter : key ∉ keys after) : without key (before ++ (key, v) :: after) = before ++ after := by
  rw [without_append_cons, without_eq_self hbefore, without_eq_self hafter]

theorem without_exchanged (v w : Json) :
    without key (before ++ (key, w) :: after) = without key (before ++ (key, v) :: after) := by
  rw [without_append_cons, without_append_cons]

/-- the member between the others is found first -/
theorem find_around {v : Json} (hbefore : key ∉ keys before) :
    find key (before ++ (key, v) :: after) = some (v, after) := by
  induction before with
  | nil => rw [List.nil_append, find, if_pos rfl]
  | cons p before ih =>
    obtain ⟨k, w⟩ := p
    simp only [keys, List.map_cons, List.mem_cons, not_or] at hbefore
    rw [List.cons_append, find, if_neg (Ne.symm hbefore.1)]
    exact ih hbefore.2

/-- the others have no member of its key -/
theorem find_apart (hbefore : key ∉ keys before) (hafter : key ∉ keys after) : find key (before ++ after) = none := by
  refine find_eq_none ?_
  rw [keys, List.map_append, List.mem_append, not_or]
  exact ⟨hbefore, hafter⟩

end Around

/-- what is found under a key, in members with the member `m` before `after` and without it -/
inductive Found (m : String × Json) (after : Members) :
    Option (Json × Members) → Option (Json × Members) → Prop
  | absent : Found m after none none
  | before (v : Json) (rest : Members) : Found m after (some (v, rest ++ m :: after)) (some (v, rest ++ after))
  | behind {v : Json} {rest : Members} (h : rest.length < after.length) :
    Found m after (some (v, rest)) (some (v, rest))

theorem found {m : String × Json} {key : String} (hkey : key ≠ m.1) (before after : Members) :
    Found m after (find key (before ++ m :: after)) (find key (before ++ after)) := by
  induction before with
  | nil =>
    have hskip : find key (m :: after) = find key after := by rw [find, if_neg (Ne.symm hkey)]
    rw [List.nil_append, List.nil_append, hskip]
    cases hfind : find key after with
    | none => exact .absent
    | some p =>
      have hle := membersFrom_le key after
      rw [membersFrom, hfind] at hle
      exact .behind hle
  | cons p before ih =>
    obtain ⟨k, v⟩ := p
    rw [List.cons_append, List.cons_append, find, find]
    by_cases hk : k = key
    · rw [if_pos hk, if_pos hk]
      exact .before v before
    · rw [if_neg hk, if_neg hk]
      exact ih

/-- what is found under a name, in members with `v` under `key` and with `w` there -/
inductive Exchanged (name key : String) (v w : Json) (after : Members) :
    Option (Json × Members) → Option (Json × Members) → Prop
  | absent : Exchanged name key v w after none none
  | before (u : Json) (rest : Members) :
    Exchanged name key v w after (some (u, rest ++ (key, v) :: after)) (some (u, rest ++ (key, w) :: after))
  | here (h : name = key) : Exchanged name key v w after (some (v, after)) (some (w, after))
  | behind (u : Json) (rest : Members) : Exchanged name key v w after (some (u, rest)) (some (u, rest))

theorem exchanged (name key : String) (v w : Json) (before after : Members) :
    Exchanged name key v w after (find name (before ++ (key, v) :: after)) (find name (before ++ (key, w) :: after)) := by
  induction before with
  | nil =>
    rw [List.nil_append, List.nil_append, find, find]
    by_cases hkey : key = name
    · rw [if_pos hkey, if_pos hkey]
      exact .here hkey.symm
    · rw [if_neg hkey, if_neg hkey]
      cases find name after with
      | none => exact .absent
      | some p => exact .behind p.1 p.2
  | cons p before ih =>
    obtain ⟨k, u⟩ := p
    rw [List.cons_append, List.cons_append, find, find]
    by_cases hk : k = name
    · rw [if_pos hk, if_pos hk]
      exact .before u before
    · rw [if_neg hk, if_neg hk]
      exact ih

end Json

/-- a list is read alike with an item exchanged for one that is read alike -/
theorem Decoder.items_exchanged {ν ε α : Type} {f : ν → Except ε α} {v w : ν} (h : f v = f w) (before after : List ν) :
    items f (before ++ v :: after) = items f (before ++ w :: after) := by
  induction before with
  | nil => rw [List.nil_append, List.nil_append, items, items, h]
  | cons u before ih => rw [List.cons_append, List.cons_append, items, items, ih]

/-! ## Readings -/

namespace Reading

variable {ε α β : Type}

/-- related results, or one fault. The second reading lacks a member that `n` others follow: a fault before the member is
met with one member less to come. -/
inductive Parallel (n : Nat) (P : α → α → Prop) : Reading ε α → Reading ε α → Prop
  | done {a b : α} (h : P a b) : Parallel n P (.done a) (.done b)
  | before {left : Nat} (h : n < left) (e : ε) : Parallel n P (.fault (left + 1) e) (.fault left e)
  | behind {left : Nat} (h : left ≤ n) (e : ε) : Parallel n P (.fault left e) (.fault left e)

variable {n : Nat} {P : α → α → Prop}

/-- a fault that is met at a member before the one that is lacking -/
theorem Parallel.around (rest : Members) (m : String × Json) (after : Members) (e : ε) :
    Parallel after.length P (.fault ((rest ++ m :: after).length + 1) e) (.fault ((rest ++ after).length + 1) e) := by
  have hleft : (rest ++ m :: after).length + 1 = (rest ++ after).length + 1 + 1 := by
    simp only [List.length_append, List.length_cons]
    omega
  rw [hleft]
  refine .before ?_ e
  rw [List.length_append]
  omega

theorem Parallel.mono {x y : Reading ε α} (h : Parallel n P x y) {Q : α → α → Prop} (hPQ : ∀ a b, P a b → Q a b) :
    Parallel n Q x y := by
  cases h with
  | done h => exact .done (hPQ _ _ h)
  | before h e => exact .before h e
  | behind h e => exact .behind h e

theorem Parallel.map {x y : Reading ε α} (h : Parallel n P x y) {f : α → β} {Q : β → β → Prop}
    (hf : ∀ a b, P a b → Q (f a) (f b)) : Parallel n Q (x.map f) (y.map f) := by
  cases h with
  | done h => exact .done (hf _ _ h)
  | before h e => exact .before h e
  | behind h e => exact .behind h e

/-- which of two faults is the earlier does not depend on the member -/
theorem Parallel.ap {x y : Reading ε (α → β)} {u v : Reading ε α} {Q : β → β → Prop}
    (hx : Parallel n (fun f g => ∀ a b, P a b → Q (f a) (g b)) x y) (hu : Parallel n P u v) :
    Parallel n Q (x.ap u) (y.ap v) := by
  cases hx with
  | done hfg =>
    cases hu with
    | done h => exact .done (hfg _ _ h)
    | before h e => exact .before h e
    | behind h e => exact .behind h e
  | @before k hk e =>
    cases hu with
    | done h => exact .before hk e
    | @before l hl e' =>
      simp only [Reading.ap, Nat.add_lt_add_iff_right]
      split
      · exact .before hl e'
      · exact .before hk e
    | @behind l hl e' =>
      have hnot : ¬ k + 1 < l := by omega
      have hnot' : ¬ k < l := by omega
      simp only [Reading.ap, if_neg hnot, if_neg hnot']
      exact .before hk e
  | @behind k hk e =>
    cases hu with
    | done h => exact .behind hk e
    | @before l hl e' =>
      have hlt : k < l + 1 := by omega
      have hlt' : k < l := by omega
      simp only [Reading.ap, if_pos hlt, if_pos hlt']
      exact .before hl e'
    | @behind l hl e' =>
      simp only [Reading.ap]
      split
      · exact .behind hl e'
      · exact .behind hk e

theorem Parallel.result {x y : Reading ε α} (h : Parallel n P x y) :
    (∃ a b, x.result = .ok a ∧ y.result = .ok b ∧ P a b) ∨ ∃ e, x.result = .error e ∧ y.result = .error e := by
  cases h with
  | done h => exact .inl ⟨_, _, rfl, rfl, h⟩
  | before _ e => exact .inr ⟨e, rfl, rfl⟩
  | behind _ e => exact .inr ⟨e, rfl, rfl⟩

end Reading

/-! ## Readers -/

namespace Reader

variable {α β : Type} {before after : Members} {name : String} {w : Json}

/-- the reader reads alike with the member between the others and without it -/
def Parallel (r : Reader α) (before : Members) (name : String) (w : Json) (after : Members)
    (P : α → α → Prop) : Prop :=
  ∀ place, Reading.Parallel after.length P (r.ofValues (.named (before ++ (name, w) :: after)) place)
    (r.ofValues (.named (before ++ after)) place)

section Fields

variable {key : String} {gap : Gap α} {d : Decoder α}

/-- a field of another name is the same -/
theorem parallel_field (hkey : key ≠ name) : (field key gap d).Parallel before name w after Eq := by
  intro place
  simp only [field, readField, readNamed]
  have hfound := Json.found (m := (name, w)) hkey before after
  generalize Json.find key (before ++ (name, w) :: after) = x, Json.find key (before ++ after) = y at hfound
  cases hfound with
  | absent =>
    dsimp only
    cases gap.named with
    | some a => exact .done rfl
    | none => exact .behind (Nat.zero_le _) _
  | before v rest =>
    dsimp only
    cases d.ofValue v with
    | error e => exact .around rest _ after e
    | ok a =>
      -- the field may stand a second time, before the member or behind it
      dsimp only
      have hagain := Json.found (m := (name, w)) hkey rest after
      generalize Json.find key (rest ++ (name, w) :: after) = x, Json.find key (rest ++ after) = y at hagain
      cases hagain with
      | absent => exact .done rfl
      | before w rest => exact .around rest _ after _
      | behind h => exact .behind h _
  | @behind v rest h =>
    dsimp only
    cases d.ofValue v with
    | error e => exact .behind h e
    | ok a =>
      dsimp only
      cases hagain : Json.find key rest with
      | none => exact .done rfl
      | some p =>
        have hle := Json.membersFrom_le key rest
        rw [Json.membersFrom, hagain] at hle
        exact .behind (hle.trans h.le) _

/-- the field of the member is what the member is read as, or what stands in the gap -/
theorem parallel_own {v : Json} {a b : α} (hd : d.ofValue v = .ok a) (hgap : gap.named = some b)
    (hbefore : key ∉ Json.keys before) (hafter : key ∉ Json.keys after) :
    (field key gap d).Parallel before key v after fun x y => x = a ∧ y = b := by
  intro place
  rw [field_of_find (Json.find_around hbefore) (Json.find_eq_none hafter),
    field_of_find_none (Json.find_apart hbefore hafter) hgap, hd]
  exact .done ⟨rfl, rfl⟩

end Fields

variable {P : α → α → Prop} {Q : β → β → Prop}

theorem Parallel.map {r : Reader α} (h : r.Parallel before name w after P) {f : α → β} (hf : ∀ a b, P a b → Q (f a) (f b)) :
    (f <$> r).Parallel before name w after Q :=
  fun place => (h place).map hf

/-- what is read last owes what the rest makes of it, in both records -/
theorem Parallel.seq {r : Reader (α → β)} {x : Reader α}
    (hr : r.Parallel before name w after fun f g => ∀ a b, P a b → Q (f a) (g b)) (hx : x.Parallel before name w after P) :
    (r <*> x).Parallel before name w after Q :=
  fun place => (hr place).ap (hx _)

/-- a field of another name, read last -/
theorem Parallel.pass {r : Reader (α → β)} {key : String} {gap : Gap α} {d : Decoder α} (hkey : key ≠ name)
    (hr : r.Parallel before name w after fun f g => ∀ a, Q (f a) (g a)) : (r <*> field key gap d).Parallel before name w after Q := by
  have heq : r.Parallel before name w after fun f g => ∀ a b, a = b → Q (f a) (g b) := by
    intro place
    exact (hr place).mono fun f g h a b hab => hab ▸ h a
  exact heq.seq (parallel_field hkey)

/-- both records are read, or both are refused for one fault -/
theorem Parallel.decode {r : Reader α} (h : r.Parallel before name w after P) (record : String) :
    (∃ a b, (r.decode record).ofValue (.obj (before ++ (name, w) :: after)) = .ok a ∧
        (r.decode record).ofValue (.obj (before ++ after)) = .ok b ∧ P a b) ∨
      ∃ e, (r.decode record).ofValue (.obj (before ++ (name, w) :: after)) = .error e ∧
        (r.decode record).ofValue (.obj (before ++ after)) = .error e :=
  (h 0).result

/-! ## Members of no field -/

/-- a member that no field is named after makes no difference, wherever it stands -/
def Passes (r : Reader α) : Prop :=
  ∀ before name w after, name ∉ r.names → r.Parallel before name w after Eq

section Passes

variable {key : String} {gap : Gap α} {d : Decoder α}

theorem passes_field : (field key gap d).Passes :=
  fun _ _ _ _ hname => parallel_field fun hkey => hname (List.mem_singleton.2 hkey.symm)

theorem Passes.first {f : α → β} : (f <$> field key gap d).Passes :=
  fun before name w after hname => (passes_field before name w after hname).map fun _ _ => congrArg f

theorem Passes.pass {r : Reader (α → β)} (h : r.Passes) : (r <*> field key gap d).Passes := by
  intro before name w after hname
  obtain ⟨hr, hfield⟩ := not_or.1 (mt List.mem_append.2 hname)
  refine Parallel.seq (fun place => ?_) (passes_field before name w after hfield)
  exact (h before name w after hr place).mono fun f g hfg a b hab => by rw [hfg, hab]

end Passes

variable {r : Reader α}

theorem Passes.decodeMembers_around (h : r.Passes) (hname : name ∉ r.names) :
    r.decodeMembers (before ++ (name, w) :: after) = r.decodeMembers (before ++ after) := by
  rcases (h before name w after hname 0).result with ⟨a, b, ha, hb, hab⟩ | ⟨e, ha, hb⟩
  · rw [decodeMembers, decodeMembers, ha, hb, hab]
  · rw [decodeMembers, decodeMembers, ha, hb]

/-- all the members that no field is named after may go -/
theorem Passes.decodeMembers_without (h : r.Passes) (hname : name ∉ r.names) (ms : Members) :
    r.decodeMembers (Json.without name ms) = r.decodeMembers ms := by
  -- member by member, behind those that are left
  have hbehind : ∀ before, r.decodeMembers (before ++ Json.without name ms) = r.decodeMembers (before ++ ms) := by
    induction ms with
    | nil => exact fun _ => rfl
    | cons p ms ih =>
      obtain ⟨k, v⟩ := p
      intro before
      by_cases hk : k = name
      · subst hk
        rw [Json.without_cons_self, ih, h.decodeMembers_around hname]
      · rw [Json.without_cons_of_ne hk, List.append_cons, ih, ← List.append_cons]
  exact hbehind []

/-! ## An exchanged member -/

/-- whichever of two values stands under a key, the same is read -/
def Blind (r : Reader α) (key : String) (v w : Json) : Prop :=
  ∀ before after place, r.ofValues (.named (before ++ (key, v) :: after)) place =
    r.ofValues (.named (before ++ (key, w) :: after)) place

section Blind

variable {key : String} {v : Json}

/-- a field of another name never asks about the value, and the field of this name reads both alike -/
theorem blind_field {gap : Gap α} {d : Decoder α} (h : name = key → d.ofValue v = d.ofValue w) :
    (field name gap d).Blind key v w := by
  intro before after place
  simp only [field, readField, readNamed]
  have hfound := Json.exchanged name key v w before after
  generalize Json.find name (before ++ (key, v) :: after) = x, Json.find name (before ++ (key, w) :: after) = y at hfound
  cases hfound with
  | absent => rfl
  | here hkey => simp only [h hkey]
  | behind u rest => rfl
  | before u rest =>
    have hlength : (rest ++ (key, v) :: after).length = (rest ++ (key, w) :: after).length := by simp
    dsimp only
    rw [hlength]
    cases d.ofValue u with
    | error e => rfl
    | ok a =>
      -- the field may stand a second time, and is met there with as many members to come
      dsimp only
      have hagain := Json.exchanged name key v w rest after
      generalize Json.find name (rest ++ (key, v) :: after) = x, Json.find name (rest ++ (key, w) :: after) = y at hagain
      cases hagain with
      | absent => rfl
      | before u rest => simp only [List.length_append, List.length_cons]
      | here hkey => rfl
      | behind u rest => rfl

theorem Blind.map {r : Reader α} (h : r.Blind key v w) (f : α → β) : (f <$> r).Blind key v w :=
  fun before after place => congrArg (Reading.map f) (h before after place)

theorem Blind.seq {r : Reader (α → β)} {x : Reader α} (hr : r.Blind key v w) (hx : x.Blind key v w) :
    (r <*> x).Blind key v w :=
  fun before after place => congrArg₂ Reading.ap (hr before after place) (hx before after _)

end Blind

end Reader

end InteractionKit
