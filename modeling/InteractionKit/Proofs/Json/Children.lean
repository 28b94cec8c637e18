import InteractionKit.Proofs.Json.Ensures
import InteractionKit.Proofs.Json.RoundTrip
/-
Records that hold other values.

What stands for a child is one value to the record around it: any decoder for it will do, so long as the two agree on
that value. So a record is read in two steps, first with its children as they came and then child by child, and a child
that is refused is met at the place of its member.

- `Decoder.items_eq_ok_iff`, `Decoder.items_eq_error_iff`: a list that is read, and the first item that is refused.
- `Decoder.unread`: a child as it came.
- `Reader.field_congr`: a field asks its decoder about one value only.
- `Reader.list_of_unread`, `Reader.value_of_unread`: a field over its children, once it fits.
- `Json.membersFrom_lt`: members of a stored object are met in the order of their keys.
- `Json.stored_get?`, `Json.sizeOf_get?`: what stands in a stored value is stored, and smaller.
-/
namespace InteractionKit

/-! ## Lists -/

namespace Decoder

variable {ν ε α : Type}

/-- a list is read as what its items are read as, one by one -/
theorem items_eq_ok_iff {f : ν → Except ε α} {vs : List ν} {as : List α} :
    items f vs = .ok as ↔ List.Forall₂ (fun v a => f v = .ok a) vs as := by
  induction vs generalizing as with
  | nil =>
    rw [List.forall₂_nil_left_iff]
    exact ⟨fun h => (Except.ok.inj h).symm, fun h => h ▸ rfl⟩
  | cons v vs ih =>
    rw [List.forall₂_cons_left_iff]
    constructor
    · intro h
      rw [items] at h
      split at h
      · cases h
      · next a ha =>
        obtain ⟨as, has, rfl⟩ := map_eq_ok h
        exact ⟨a, as, ha, ih.1 has, rfl⟩
    · rintro ⟨a, as, ha, has, rfl⟩
      rw [items, ha]
      simp only [ih.2 has, Except.map]

/-- a list is refused for the first item that is -/
theorem items_eq_error_iff {f : ν → Except ε α} {vs : List ν} {e : ε} :
    items f vs = .error e ↔
      ∃ before v after, vs = before ++ v :: after ∧ (∀ w ∈ before, ∃ a, f w = .ok a) ∧ f v = .error e := by
  induction vs with
  | nil => simp [items]
  | cons v vs ih =>
    cases hv : f v with
    | error e' =>
      rw [items, hv]
      constructor
      · rintro ⟨⟩
        exact ⟨[], v, vs, rfl, by simp, hv⟩
      · rintro ⟨before, w, after, heq, hbefore, hw⟩
        cases before with
        | nil =>
          cases heq
          rw [← hv, hw]
        | cons u before =>
          cases heq
          obtain ⟨a, ha⟩ := hbefore v List.mem_cons_self
          rw [hv] at ha
          cases ha
    | ok a =>
      have hstep : items f (v :: vs) = .error e ↔ items f vs = .error e := by
        rw [items, hv]
        cases items f vs <;> simp [Except.map]
      rw [hstep, ih]
      constructor
      · rintro ⟨before, w, after, rfl, hbefore, hw⟩
        exact ⟨v :: before, w, after, rfl, List.forall_mem_cons.2 ⟨⟨a, hv⟩, hbefore⟩, hw⟩
      · rintro ⟨before, w, after, heq, hbefore, hw⟩
        cases before with
        | nil =>
          cases heq
          rw [hv] at hw
          cases hw
        | cons u before =>
          cases heq
          exact ⟨before, w, after, rfl, fun x hx => hbefore x (List.mem_cons_of_mem _ hx), hw⟩

/-- some list is read just when every item is -/
theorem exists_items_iff {f : ν → Except ε α} {vs : List ν} :
    (∃ as, items f vs = .ok as) ↔ ∀ v ∈ vs, ∃ a, f v = .ok a := by
  constructor
  · rintro ⟨as, has⟩
    have hall := items_eq_ok_iff.1 has
    clear has
    induction hall with
    | nil => simp
    | cons hv _ ih => exact List.forall_mem_cons.2 ⟨⟨_, hv⟩, ih⟩
  · intro h
    cases hvs : items f vs with
    | ok as => exact ⟨as, rfl⟩
    | error e =>
      obtain ⟨before, v, after, rfl, -, hv⟩ := items_eq_error_iff.1 hvs
      obtain ⟨a, ha⟩ := h v (by simp)
      rw [hv] at ha
      cases ha

/-- a child as it came -/
def unread : Decoder Json := whole .ok

theorem items_unread (vs : List Json) : items unread.ofValue vs = .ok vs := by
  rw [items_eq_ok_iff, List.forall₂_same]
  intro v _
  rfl

/-- what is read as a list is an array -/
theorem list_eq_ok {d : Decoder α} {v : Json} {as : List α} (h : (list d).ofValue v = .ok as) :
    ∃ vs, v = .arr vs ∧ items d.ofValue vs = .ok as := by
  cases v with
  | arr vs => exact ⟨vs, rfl, h⟩
  | _ => cases h

end Decoder

/-! ## Members -/

namespace Json

/-- the items of the list under a key, none if no list is there -/
def itemsAt (key : String) (v : Json) : List Json :=
  match v.get? key with
  | some (.arr vs) => vs
  | _ => []

/-- the number of members from the first with a key on -/
def membersFrom (key : String) (ms : Members) : Nat := (find key ms).elim 0 fun p => p.2.length + 1

theorem get?_of_find {key : String} {ms rest : Members} {v : Json} (h : find key ms = some (v, rest)) :
    get? key (.obj ms) = some v := by
  rw [get?, h, Option.map_some]

theorem membersFrom_le (key : String) (ms : Members) : membersFrom key ms ≤ ms.length := by
  unfold membersFrom
  induction ms with
  | nil => exact Nat.le_refl 0
  | cons p ms ih =>
    obtain ⟨k, v⟩ := p
    rw [find]
    split
    · simp
    · simpa using Nat.le_succ_of_le ih

/-- of two members that stand in rising order the one with the smaller key comes first -/
theorem membersFrom_lt {ms : Members} (hms : ms.Pairwise fun p q => p.1 < q.1) {k l : String} (hkl : k < l)
    {v : Json} (hk : get? k (.obj ms) = some v) : membersFrom l ms < membersFrom k ms := by
  induction ms with
  | nil => cases hk
  | cons p ms ih =>
    obtain ⟨m, w⟩ := p
    obtain ⟨hm, hms⟩ := List.pairwise_cons.1 hms
    by_cases hmk : m = k
    · subst hmk
      have hne : m ≠ l := ne_of_lt hkl
      have hle := membersFrom_le l ms
      simp only [membersFrom, find, if_neg hne, if_true, Option.elim_some] at hle ⊢
      omega
    · have hget : get? k (.obj ms) = some v := by
        simpa only [get?, find, if_neg hmk] using hk
      -- the key stands behind the first member, so the larger one does too
      have hml : m ≠ l := by
        have hmem : (k, v) ∈ ms := mem_of_get? hget
        exact ne_of_lt (lt_trans (hm (k, v) hmem) hkl)
      have hlt := ih hms hget
      simp only [membersFrom, find, if_neg hmk, if_neg hml] at hlt ⊢
      exact hlt

/-! ### Parts of a stored value -/

theorem settled_of_stored {ms : Members} (h : (obj ms).canonical = .obj ms) : Settled ms := by
  have hms : canonicalMembers [] ms = ms := Json.obj.inj h
  rw [← hms]
  exact settled_canonicalMembers ms settled_nil

variable {key : String} {v w : Json}

theorem stored_get? (h : v.canonical = v) (hw : v.get? key = some w) : w.canonical = w := by
  cases v with
  | obj ms => exact (settled_of_stored h).stored (key, w) (mem_of_get? hw)
  | _ => cases hw

/-- the items under a key are the items of a list there -/
theorem mem_itemsAt (hw : w ∈ v.itemsAt key) : ∃ vs, v.get? key = some (.arr vs) ∧ w ∈ vs := by
  unfold itemsAt at hw
  split at hw
  · next vs hvs => exact ⟨vs, hvs, hw⟩
  · cases hw

theorem stored_itemsAt (h : v.canonical = v) (hw : w ∈ v.itemsAt key) : w.canonical = w := by
  obtain ⟨vs, hvs, hmem⟩ := mem_itemsAt hw
  have harr : canonicalItems vs = vs := Json.arr.inj (stored_get? h hvs)
  rw [canonicalItems_eq_map] at harr
  exact List.map_inj_left.1 (harr.trans (List.map_id vs).symm) w hmem

theorem sizeOf_get? (hw : v.get? key = some w) : sizeOf w < sizeOf v := by
  cases v with
  | obj ms =>
    have hlt := List.sizeOf_lt_of_mem (mem_of_get? hw)
    simp only [Prod.mk.sizeOf_spec, obj.sizeOf_spec] at hlt ⊢
    omega
  | _ => cases hw

theorem sizeOf_itemsAt (hw : w ∈ v.itemsAt key) : sizeOf w < sizeOf v := by
  obtain ⟨vs, hvs, hmem⟩ := mem_itemsAt hw
  have hlist := sizeOf_get? hvs
  have hitem := List.sizeOf_lt_of_mem hmem
  rw [arr.sizeOf_spec] at hlist
  omega

end Json

/-! ## Fields -/

namespace Reader

variable {α β : Type} {key : String} {ms : Members} {place : Nat}

/-- a field that was read stands under its key once, or in its gap -/
theorem field_eq_done_iff {gap : Gap α} {d : Decoder α} {a : α} :
    (field key gap d).ofValues (.named ms) place = .done a ↔
      (∃ v rest, Json.find key ms = some (v, rest) ∧ Json.find key rest = none ∧ d.ofValue v = .ok a) ∨
        Json.find key ms = none ∧ gap.named = some a := by
  constructor
  · intro h
    simp only [field, readField, readNamed] at h
    split at h
    · next hnone =>
      split at h
      · next b hb =>
        cases h
        exact .inr ⟨hnone, hb⟩
      · cases h
    · next v rest hfind =>
      split at h
      · cases h
      · next b hb =>
        split at h
        · next hrest =>
          cases h
          exact .inl ⟨v, rest, hfind, hrest, hb⟩
        · cases h
  · rintro (⟨v, rest, hfind, hrest, ha⟩ | ⟨hnone, hgap⟩)
    · rw [field_of_find hfind hrest, ha]
      rfl
    · exact field_of_find_none hnone hgap place

/-- a field asks its decoder about nothing but the value under its key -/
theorem field_congr {gap : Gap α} {d d' : Decoder α}
    (h : ∀ v, Json.get? key (.obj ms) = some v → d.ofValue v = d'.ofValue v) :
    (field key gap d).ofValues (.named ms) place = (field key gap d').ofValues (.named ms) place := by
  simp only [field, readField, readNamed]
  cases hfind : Json.find key ms with
  | none => rfl
  | some p =>
    obtain ⟨v, rest⟩ := p
    simp only [h v (Json.get?_of_find hfind)]

/-! ### Over children that are unread -/

/-- both stand for no items, or neither for anything -/
def Gap.Empty (gap₀ : Gap (List β)) (gap : Gap (List α)) : Prop :=
  gap₀.named = none ∧ gap.named = none ∨ gap₀.named = some [] ∧ gap.named = some []

variable {d : Decoder α}

/-- a field of items that fits is what its items are read as -/
theorem list_of_unread {gap₀ : Gap (List Json)} {gap : Gap (List α)} (hgap : Gap.Empty gap₀ gap) {us : List Json}
    (h : (field key gap₀ (.list .unread)).ofValues (.named ms) place = .done us) :
    (field key gap (.list d)).ofValues (.named ms) place =
      .at_ (Json.membersFrom key ms) (Decoder.items d.ofValue (Json.itemsAt key (.obj ms))) := by
  rcases field_eq_done_iff.1 h with ⟨v, rest, hfind, hrest, hv⟩ | ⟨hnone, hus⟩
  · obtain ⟨vs, rfl, -⟩ := Decoder.list_eq_ok hv
    have hitems : Json.itemsAt key (.obj ms) = vs := by rw [Json.itemsAt, Json.get?_of_find hfind]
    have hfrom : Json.membersFrom key ms = rest.length + 1 := by rw [Json.membersFrom, hfind, Option.elim_some]
    rw [field_of_find hfind hrest, hitems, hfrom]
    rfl
  · have hnil : gap.named = some [] := by
      rcases hgap with ⟨h₀, -⟩ | ⟨-, h₁⟩
      · rw [h₀] at hus
        cases hus
      · exact h₁
    have hitems : Json.itemsAt key (.obj ms) = [] := by
      rw [Json.itemsAt, Json.get?, hnone]
      rfl
    rw [field_of_find_none hnone hnil, hitems]
    rfl

/-- a field of items that was read fits, and all its items were read -/
theorem unread_of_list {gap₀ : Gap (List Json)} {gap : Gap (List α)} (hgap : Gap.Empty gap₀ gap) {as : List α}
    (h : (field key gap (.list d)).ofValues (.named ms) place = .done as) :
    (∃ us, (field key gap₀ (.list .unread)).ofValues (.named ms) place = .done us) ∧
      Decoder.items d.ofValue (Json.itemsAt key (.obj ms)) = .ok as := by
  rcases field_eq_done_iff.1 h with ⟨v, rest, hfind, hrest, hv⟩ | ⟨hnone, has⟩
  · obtain ⟨vs, rfl, hvs⟩ := Decoder.list_eq_ok hv
    have hitems : Json.itemsAt key (.obj ms) = vs := by rw [Json.itemsAt, Json.get?_of_find hfind]
    rw [hitems]
    exact ⟨⟨vs, field_eq_done_iff.2 (.inl ⟨_, rest, hfind, hrest, Decoder.items_unread vs⟩)⟩, hvs⟩
  · have hitems : Json.itemsAt key (.obj ms) = [] := by
      rw [Json.itemsAt, Json.get?, hnone]
      rfl
    rcases hgap with ⟨-, h₁⟩ | ⟨h₀, h₁⟩
    · rw [h₁] at has
      cases has
    · rw [h₁] at has
      cases has
      rw [hitems]
      exact ⟨⟨[], field_eq_done_iff.2 (.inr ⟨hnone, h₀⟩)⟩, rfl⟩

/-- a field of one child that fits is what the child is read as -/
theorem value_of_unread {u : Json} (h : (required key .unread).ofValues (.named ms) place = .done u) :
    Json.get? key (.obj ms) = some u ∧
      (required key d).ofValues (.named ms) place = .at_ (Json.membersFrom key ms) (d.ofValue u) := by
  rcases field_eq_done_iff.1 h with ⟨v, rest, hfind, hrest, hv⟩ | ⟨-, hgap⟩
  · cases hv
    have hfrom : Json.membersFrom key ms = rest.length + 1 := by rw [Json.membersFrom, hfind, Option.elim_some]
    exact ⟨Json.get?_of_find hfind, by rw [required, field_of_find hfind hrest, hfrom]⟩
  · cases hgap

/-- a field of one child that was read fits, and the child was read -/
theorem unread_of_value {a : α} (h : (required key d).ofValues (.named ms) place = .done a) :
    ∃ u, (required key .unread).ofValues (.named ms) place = .done u ∧ Json.get? key (.obj ms) = some u ∧
      d.ofValue u = .ok a := by
  rcases field_eq_done_iff.1 h with ⟨v, rest, hfind, hrest, hv⟩ | ⟨-, hgap⟩
  · exact ⟨v, field_eq_done_iff.2 (.inl ⟨v, rest, hfind, hrest, rfl⟩), Json.get?_of_find hfind, hv⟩
  · cases hgap

end Reader

end InteractionKit
