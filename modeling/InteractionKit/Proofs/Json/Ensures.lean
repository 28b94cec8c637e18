import InteractionKit.Proofs.Json.Normal
import InteractionKit.Proofs.Json.Stored
/-
What holds of everything that a decoder gives.

A property of a record is shown field by field, as the record was put together: the last field owes what the others make
of it, so the whole of a record ends in one statement about its constructor.

- `Decoder.Ensures`, `Reader.Ensures`: every value that is read has a property.
- `Decoder.Takes`: some value is read.
- `Reader.field_eq_done`, `Reader.decode_eq_ok`: where a field, and a record, was read from.
- `Reader.Ensures.map`, `Reader.Ensures.seq`, `Reader.Ensures.pass`: from the fields to the record.
- `Reader.Needs`: no record is read where a key is missing.
- `Reader.Checks`: no record is read where what stands for a field is not taken.
- `Reader.Shows`: what a record says of a field is what stands under its key.
- `raw_ensures`: a raw value is stored, and never `null` where `null` means none.
-/
namespace InteractionKit

/-! ## Values -/

/-- a result that was changed was there before -/
theorem map_eq_ok {ε α β : Type} {x : Except ε α} {f : α → β} {b : β} (h : x.map f = .ok b) :
    ∃ a, x = .ok a ∧ f a = b := by
  cases x with
  | error e => cases h
  | ok a =>
    cases h
    exact ⟨a, rfl, rfl⟩

namespace Decoder

variable {α β : Type} {P : α → Prop}

/-- every value that is read has the property -/
def Ensures (d : Decoder α) (P : α → Prop) : Prop := ∀ ⦃v a⦄, d.ofValue v = .ok a → P a

theorem ensures_true (d : Decoder α) : d.Ensures fun _ => True := fun _ _ _ => trivial

theorem Ensures.mono {d : Decoder α} {Q : α → Prop} (h : d.Ensures P) (hPQ : ∀ a, P a → Q a) : d.Ensures Q :=
  fun _ a ha => hPQ a (h ha)

theorem Ensures.map {d : Decoder α} {f : α → β} {Q : β → Prop} (h : d.Ensures P) (hf : ∀ a, P a → Q (f a)) :
    (f <$> d).Ensures Q := by
  intro v b hb
  rw [ofValue_map] at hb
  obtain ⟨a, ha, rfl⟩ := map_eq_ok hb
  exact hf a (h ha)

/-- what may be `null` is none for `null`, and else what is read -/
theorem nullable_eq_ok {d : Decoder α} {v : Json} {o : Option α} (h : d.nullable.ofValue v = .ok o) :
    (v = .null ∧ o = none) ∨ (v ≠ .null ∧ ∃ a, d.ofValue v = .ok a ∧ o = some a) := by
  cases v with
  | null =>
    cases h
    exact .inl ⟨rfl, rfl⟩
  | _ =>
    obtain ⟨a, ha, rfl⟩ := map_eq_ok (f := some) h
    exact .inr ⟨nofun, a, ha, rfl⟩

theorem Ensures.nullable {d : Decoder α} (h : d.Ensures P) : d.nullable.Ensures fun o => ∀ a ∈ o, P a := by
  intro v o ho a ha
  rcases nullable_eq_ok ho with ⟨-, rfl⟩ | ⟨-, b, hb, rfl⟩
  · cases ha
  · cases ha
    exact h hb

theorem ensures_items {ν ε : Type} {decode : ν → Except ε α} (h : ∀ ⦃v a⦄, decode v = .ok a → P a) {vs : List ν}
    {as : List α} (has : items decode vs = .ok as) : ∀ a ∈ as, P a := by
  induction vs generalizing as with
  | nil =>
    cases has
    simp
  | cons v vs ih =>
    simp only [items] at has
    split at has
    · cases has
    · next b hb =>
      obtain ⟨bs, hbs, rfl⟩ := map_eq_ok has
      intro a ha
      rcases List.mem_cons.1 ha with rfl | ha
      · exact h hb
      · exact ih hbs a ha

theorem Ensures.list {d : Decoder α} (h : d.Ensures P) : (Decoder.list d).Ensures fun as => ∀ a ∈ as, P a := by
  intro v as has
  cases v with
  | arr vs => exact ensures_items h has
  | _ => cases has

/-- some value is read -/
def Takes (d : Decoder α) (v : Json) : Prop := ∃ a, d.ofValue v = .ok a

theorem not_takes {d : Decoder α} {v : Json} {e : ReadError} (h : d.ofValue v = .error e) : ¬ d.Takes v := by
  rintro ⟨a, ha⟩
  rw [h] at ha
  cases ha

theorem takes_of_eq_map {d : Decoder α} {d' : Decoder β} {v v' : Json} {f : α → β}
    (h : d'.ofValue v' = (d.ofValue v).map f) : d'.Takes v' ↔ d.Takes v := by
  unfold Takes
  rw [h]
  constructor
  · rintro ⟨b, hb⟩
    obtain ⟨a, ha, -⟩ := map_eq_ok hb
    exact ⟨a, ha⟩
  · rintro ⟨a, ha⟩
    exact ⟨f a, by rw [ha]; rfl⟩

theorem takes_map {d : Decoder α} {f : α → β} {v : Json} : (f <$> d).Takes v ↔ d.Takes v := takes_of_eq_map rfl

/-- a list is read just when every item is -/
theorem takes_list {d : Decoder α} {vs : List Json} : (Decoder.list d).Takes (.arr vs) ↔ ∀ v ∈ vs, d.Takes v := by
  have hitems : (∃ as, items d.ofValue vs = .ok as) ↔ ∀ v ∈ vs, d.Takes v := by
    induction vs with
    | nil => simp [items]
    | cons v vs ih =>
      rw [List.forall_mem_cons, ← ih]
      unfold Takes
      cases hv : d.ofValue v with
      | error e => simp [items, hv]
      | ok a => cases hvs : items d.ofValue vs <;> simp [items, hv, hvs, Except.map]
  exact hitems

/-- a kind that is read from a number is the one that its own number is read as -/
theorem ensures_ofCode {κ ν : Type} {d : Decoder ν} {ofCode : ν → κ} {code : κ → ν} (h : ∀ n, code (ofCode n) = n) :
    (ofCode <$> d).Ensures fun k => ofCode (code k) = k :=
  (ensures_true d).map fun n _ => by rw [h]

/-- a raw value is in its stored form, and none stands for `null` -/
theorem raw_ensures : raw.nullable.Ensures fun o => ∀ v ∈ o, v.canonical = v ∧ v ≠ .null := by
  intro v o ho w hw
  rcases nullable_eq_ok ho with ⟨-, rfl⟩ | ⟨hv, b, hb, rfl⟩
  · cases hw
  · cases hb
    cases hw
    exact ⟨v.canonical_canonical, fun hnull => hv (Json.canonical_eq_null hnull)⟩

end Decoder

/-! ## Rows -/

/-- what a value holds for a field of a record: a member of an object, an item of an array -/
def Json.fieldAt? (key : String) (place : Nat) : Json → Option Json
  | .obj ms => get? key (.obj ms)
  | .arr xs => xs[place]?
  | _ => none

/-- the items of the list that stands for a field -/
def Json.HasItem (v : Json) (key : String) (place : Nat) (w : Json) : Prop :=
  ∃ ws, v.fieldAt? key place = some (.arr ws) ∧ w ∈ ws

/-- the value that was taken apart into a row -/
def Row.toJson : Row Json → Json
  | .named ms => .obj ms
  | .listed _ xs => .arr xs

/-- what stands in a gap of a row -/
def Gap.fill {α ν : Type} (gap : Gap α) : Row ν → Option α
  | .named _ => gap.named
  | .listed _ _ => gap.listed

/-! ## Records -/

namespace Reader

variable {α β : Type} {P : α → Prop}

/-- every record that is read has the property -/
def Ensures (r : Reader α) (P : α → Prop) : Prop := ∀ ⦃row place a⦄, r.ofValues row place = .done a → P a

theorem ensures_true (r : Reader α) : r.Ensures fun _ => True := fun _ _ _ _ => trivial

/-- a reading of two parts is one of each -/
theorem ap_eq_done {ε : Type} {x : Reading ε (α → β)} {y : Reading ε α} {b : β} (h : x.ap y = .done b) :
    ∃ f a, x = .done f ∧ y = .done a ∧ f a = b := by
  cases x with
  | done f =>
    cases y with
    | done a =>
      cases h
      exact ⟨f, a, rfl, rfl, rfl⟩
    | fault n e => cases h
  | fault m e =>
    cases y with
    | done a => cases h
    | fault n e' =>
      simp only [Reading.ap] at h
      split at h
      · cases h
      · cases h

section Inversion

variable {row : Row Json} {place : Nat} {b : β}

theorem map_eq_done {r : Reader α} {f : α → β} (h : (f <$> r).ofValues row place = .done b) :
    ∃ a, r.ofValues row place = .done a ∧ f a = b := by
  have hmap : (r.ofValues row place).map f = .done b := h
  cases hr : r.ofValues row place with
  | fault n e =>
    rw [hr] at hmap
    cases hmap
  | done a =>
    rw [hr] at hmap
    cases hmap
    exact ⟨a, rfl, rfl⟩

/-- the second of two readers stands behind the fields of the first -/
theorem seq_eq_done {r : Reader (α → β)} {x : Reader α} (h : (r <*> x).ofValues row place = .done b) :
    ∃ f a, r.ofValues row place = .done f ∧ x.ofValues row (place + r.width) = .done a ∧ f a = b :=
  ap_eq_done h

end Inversion

theorem Ensures.map {r : Reader α} {f : α → β} {Q : β → Prop} (h : r.Ensures P) (hf : ∀ a, P a → Q (f a)) :
    (f <$> r).Ensures Q := by
  intro row place b hb
  obtain ⟨a, ha, rfl⟩ := map_eq_done hb
  exact hf a (h ha)

/-- what is read last owes what the rest makes of it -/
theorem Ensures.seq {r : Reader (α → β)} {x : Reader α} {Q : β → Prop} (hr : r.Ensures fun f => ∀ a, P a → Q (f a))
    (hx : x.Ensures P) : (r <*> x).Ensures Q := by
  intro row place b hb
  obtain ⟨f, a, hf, ha, rfl⟩ := seq_eq_done hb
  exact hr hf a (hx ha)

/-- a field of no concern -/
theorem Ensures.pass {r : Reader (α → β)} {x : Reader α} {Q : β → Prop} (hr : r.Ensures fun f => ∀ a, Q (f a)) :
    (r <*> x).Ensures Q := by
  intro row place b hb
  obtain ⟨f, a, hf, -, rfl⟩ := seq_eq_done hb
  exact hr hf a

/-! ### Fields -/

section Fields

variable {key : String} {gap : Gap α} {d : Decoder α}

/-- a field that was read was read from what stands for it, or is what stands in its gap -/
theorem field_eq_done {row : Row Json} {place : Nat} {a : α} (h : (field key gap d).ofValues row place = .done a) :
    (∃ v, row.toJson.fieldAt? key place = some v ∧ d.ofValue v = .ok a) ∨
      (row.toJson.fieldAt? key place = none ∧ gap.fill row = some a) := by
  cases row with
  | named ms =>
    have hread : readNamed id key gap d.ofValue ms = .done a := h
    unfold readNamed at hread
    split at hread
    · next hfind =>
      split at hread
      · next b hb =>
        cases hread
        exact .inr ⟨by simp [Row.toJson, Json.fieldAt?, Json.get?, hfind], hb⟩
      · cases hread
    · next v rest hfind =>
      split at hread
      · cases hread
      · next b hb =>
        split at hread
        · cases hread
          exact .inl ⟨v, by simp [Row.toJson, Json.fieldAt?, Json.get?, hfind], hb⟩
        · cases hread
  | listed wanted xs =>
    have hread : readListed id wanted place gap d.ofValue xs = .done a := h
    unfold readListed at hread
    split at hread
    · next v hv =>
      cases hb : d.ofValue v with
      | error e =>
        rw [hb] at hread
        cases hread
      | ok b =>
        rw [hb] at hread
        cases hread
        exact .inl ⟨v, hv, hb⟩
    · next hnone =>
      split at hread
      · next b hb =>
        cases hread
        exact .inr ⟨hnone, hb⟩
      · cases hread

theorem ensures_field (hd : d.Ensures P) (hnamed : ∀ a, gap.named = some a → P a)
    (hlisted : ∀ a, gap.listed = some a → P a) : (field key gap d).Ensures P := by
  intro row place a ha
  rcases field_eq_done ha with ⟨v, -, hv⟩ | ⟨-, hgap⟩
  · exact hd hv
  · cases row with
    | named ms => exact hnamed a hgap
    | listed wanted xs => exact hlisted a hgap

end Fields

theorem ensures_required {key : String} {d : Decoder α} (hd : d.Ensures P) : (required key d).Ensures P :=
  ensures_field hd (fun _ h => by cases h) fun _ h => by cases h

theorem ensures_defaulted {key : String} {a : α} {d : Decoder α} (hd : d.Ensures P) (ha : P a) :
    (defaulted key a d).Ensures P :=
  ensures_field hd (fun _ h => by cases h; exact ha) fun _ h => by cases h; exact ha

/-- a field that may be left out, over a decoder that already knows `null` -/
theorem ensures_gap {key : String} {d : Decoder (Option α)} (hd : d.Ensures fun o => ∀ a ∈ o, P a) :
    (field key ⟨some none, some none⟩ d).Ensures fun o => ∀ a ∈ o, P a :=
  ensures_field hd (fun _ h => by cases h; simp) fun _ h => by cases h; simp

theorem ensures_optional {key : String} {d : Decoder α} (hd : d.Ensures P) :
    (optional key d).Ensures fun o => ∀ a ∈ o, P a :=
  ensures_gap hd.nullable

/-! ### Keys that have to be there -/

/-- no record is read from members without the key -/
def Needs (r : Reader α) (key : String) : Prop :=
  ∀ ⦃ms place a⦄, r.ofValues (.named ms) place = .done a → Json.get? key (.obj ms) ≠ none

theorem needs_required {key : String} {d : Decoder α} : (required key d).Needs key := by
  intro ms place a h
  rcases field_eq_done h with ⟨v, hv, -⟩ | ⟨-, hgap⟩
  · have hget : Json.get? key (.obj ms) = some v := hv
    simp [hget]
  · cases hgap

theorem Needs.map {r : Reader α} {key : String} (h : r.Needs key) (f : α → β) : (f <$> r).Needs key := by
  intro ms place b hb
  obtain ⟨a, ha, -⟩ := map_eq_done hb
  exact h ha

/-- what is read before the last field has its needs -/
theorem Needs.seq {r : Reader (α → β)} {x : Reader α} {key : String} (h : r.Needs key) : (r <*> x).Needs key := by
  intro ms place b hb
  obtain ⟨f, a, hf, -, -⟩ := seq_eq_done hb
  exact h hf

/-! ### Fields that have to fit -/

/-- no record is read unless the decoder takes what stands for the field -/
def Checks {γ : Type} (r : Reader α) (key : String) (place : Nat) (d : Decoder γ) : Prop :=
  ∀ ⦃row start a⦄, r.ofValues row start = .done a →
    ∀ v, row.toJson.fieldAt? key (start + place) = some v → d.Takes v

section Checks

variable {γ : Type} {key : String} {place : Nat} {d : Decoder γ}

theorem checks_field {gap : Gap γ} : (field key gap d).Checks key 0 d := by
  intro row start a h v hv
  rcases field_eq_done h with ⟨w, hw, ha⟩ | ⟨hnone, -⟩
  · rw [Nat.add_zero, hw] at hv
    cases hv
    exact ⟨a, ha⟩
  · rw [Nat.add_zero, hnone] at hv
    cases hv

/-- a field that stands before the last one -/
theorem Checks.seq {r : Reader (α → β)} {x : Reader α} (h : r.Checks key place d) : (r <*> x).Checks key place d := by
  intro row start b hb
  obtain ⟨f, a, hf, -, -⟩ := seq_eq_done hb
  exact h hf

/-- the last field -/
theorem Checks.last {r : Reader (α → β)} {x : Reader α} (h : x.Checks key place d) :
    (r <*> x).Checks key (r.width + place) d := by
  intro row start b hb v hv
  obtain ⟨f, a, -, ha, -⟩ := seq_eq_done hb
  refine h ha v ?_
  rwa [Nat.add_assoc]

end Checks

/-! ### Fields that are told by their keys -/

/-- what a record says of a field is told by the member under its key -/
def Shows {γ : Type} (r : Reader α) (key : String) (d : Decoder γ) (P : α → γ → Prop) : Prop :=
  ∀ ⦃ms place a⦄, r.ofValues (.named ms) place = .done a →
    ∃ v c, Json.get? key (.obj ms) = some v ∧ d.ofValue v = .ok c ∧ P a c

section Shows

variable {γ : Type} {key : String} {d : Decoder γ} {Q : β → γ → Prop}

theorem shows_required : (required key d).Shows key d Eq := by
  intro ms place c h
  rcases field_eq_done h with ⟨v, hv, hc⟩ | ⟨-, hgap⟩
  · exact ⟨v, c, hv, hc, rfl⟩
  · cases hgap

/-- the field is read last -/
theorem Shows.last {r : Reader (γ → β)} {x : Reader γ} (hx : x.Shows key d Eq) (hr : r.Ensures fun f => ∀ c, Q (f c) c) :
    (r <*> x).Shows key d Q := by
  intro ms place b hb
  obtain ⟨f, a, hf, ha, rfl⟩ := seq_eq_done hb
  obtain ⟨v, c, hv, hc, rfl⟩ := hx ha
  exact ⟨v, a, hv, hc, hr hf a⟩

/-- a field of no concern, behind it -/
theorem Shows.pass {r : Reader (α → β)} {x : Reader α} (hr : r.Shows key d fun f c => ∀ a, Q (f a) c) :
    (r <*> x).Shows key d Q := by
  intro ms place b hb
  obtain ⟨f, a, hf, -, rfl⟩ := seq_eq_done hb
  obtain ⟨v, c, hv, hc, hQ⟩ := hr hf
  exact ⟨v, c, hv, hc, hQ a⟩

end Shows

/-! ### From the fields to the record -/

theorem decodeMembers_eq_ok {r : Reader α} {ms : Members} {a : α} (h : r.decodeMembers ms = .ok a) :
    r.ofValues (.named ms) 0 = .done a := by
  unfold Reader.decodeMembers at h
  cases hr : r.ofValues (.named ms) 0 with
  | fault n e =>
    rw [hr] at h
    cases h
  | done b =>
    rw [hr] at h
    cases h
    rfl

theorem decodeItems_eq_ok {r : Reader α} {name : String} {xs : List Json} {a : α} (h : r.decodeItems name xs = .ok a) :
    r.ofValues (.listed (r.shape name) xs) 0 = .done a := by
  unfold Reader.decodeItems at h
  cases hr : r.ofValues (.listed (r.shape name) xs) 0 with
  | fault n e =>
    simp only [hr, Reading.result] at h
    cases h
  | done b =>
    simp only [hr, Reading.result] at h
    split at h
    · cases h
      rfl
    · cases h

/-- a record is read from an object or an array -/
theorem decode_eq_ok {r : Reader α} {name : String} {v : Json} {a : α} (h : (r.decode name).ofValue v = .ok a) :
    ∃ row : Row Json, v = row.toJson ∧ r.ofValues row 0 = .done a := by
  cases v with
  | obj ms => exact ⟨.named ms, rfl, decodeMembers_eq_ok h⟩
  | arr xs => exact ⟨.listed _ xs, rfl, decodeItems_eq_ok h⟩
  | _ => cases h

theorem Ensures.decodeMembers {r : Reader α} (h : r.Ensures P) {ms : Members} {a : α}
    (ha : r.decodeMembers ms = .ok a) : P a :=
  h (decodeMembers_eq_ok ha)

theorem Ensures.decodeItems {r : Reader α} (h : r.Ensures P) {name : String} {xs : List Json} {a : α}
    (ha : r.decodeItems name xs = .ok a) : P a :=
  h (decodeItems_eq_ok ha)

theorem Ensures.decode {r : Reader α} (h : r.Ensures P) {name : String} : (r.decode name).Ensures P := by
  intro v a ha
  obtain ⟨row, -, hrow⟩ := decode_eq_ok ha
  exact h hrow

theorem Checks.decode {γ : Type} {r : Reader α} {key : String} {place : Nat} {d : Decoder γ} (h : r.Checks key place d)
    {name : String} {v w : Json} (hv : (r.decode name).Takes v) (hw : v.fieldAt? key place = some w) : d.Takes w := by
  obtain ⟨a, ha⟩ := hv
  obtain ⟨row, rfl, hrow⟩ := decode_eq_ok ha
  refine h hrow w ?_
  rwa [Nat.zero_add]

/-- of a list that stands for a field every item is taken -/
theorem Checks.item {γ : Type} {r : Reader α} {key : String} {place : Nat} {d : Decoder γ}
    (h : r.Checks key place (.list d)) {name : String} {v w : Json} (hv : (r.decode name).Takes v)
    (hw : v.HasItem key place w) : d.Takes w := by
  obtain ⟨ws, hws, hmem⟩ := hw
  exact Decoder.takes_list.1 (h.decode hv hws) w hmem

/-- members without a key that has to be there are refused -/
theorem Needs.refuses {r : Reader α} {key : String} (h : r.Needs key) {name : String} {ms : Members}
    (hms : Json.get? key (.obj ms) = none) (a : α) : (r.decode name).ofValue (.obj ms) ≠ .ok a :=
  fun ha => h (decodeMembers_eq_ok ha) hms

/-- so are members under other keys, once they are stored -/
theorem Needs.refuses_stored {r : Reader α} {key : String} (h : r.Needs key) {name : String} {ms : Members}
    {ks : List String} (hms : Json.Within ms ks) (hks : (key :: ks).Nodup) (a : α) :
    (r.decode name).ofValue (Json.canonical (.obj ms)) ≠ .ok a := by
  obtain ⟨hkey, hnodup⟩ := List.nodup_cons.1 hks
  refine h.refuses ?_ a
  rw [Json.get?_canonicalMembers key (hms.distinct hnodup), hms.get?_eq_none hkey, Option.map_none]

end Reader

end InteractionKit
