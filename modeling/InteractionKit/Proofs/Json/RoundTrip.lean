import InteractionKit.Proofs.Json.Normal
import InteractionKit.Proofs.Json.Stored
import InteractionKit.Proofs.Text.Decimal
/-
Reading back what was written, once it is stored.

A decoder undoes an encoder when it takes every value from the stored form of its encoding. A reader undoes written
members when it takes the record from them, wherever they stand among other members. The second holds field by field:
`Undoes.map` and `Undoes.seq` follow the shape of a reader, so a proof for a record is one line a field.

- `Decoder.Reads`, `Decoder.Inverts`: one value, every value.
- `Reader.Undoes`: a record and its members.
- `Undoes.decode`: from the fields to the record.
-/
namespace InteractionKit

/-! ## Values -/

namespace Decoder

variable {α β : Type}

/-- the decoder takes `a` from the stored form of `v` -/
def Reads (d : Decoder α) (v : Json) (a : α) : Prop := d.ofValue v.canonical = .ok a

/-- the decoder has no use for `null` -/
def RefusesNull (d : Decoder α) : Prop := ∃ e, d.ofValue .null = .error e

/-- the decoder takes every value from its encoding, and has no use for `null` -/
structure Inverts (d : Decoder α) (encode : α → Json) : Prop where
  reads : ∀ a, d.Reads (encode a) a
  refusesNull : d.RefusesNull

theorem Reads.map {d : Decoder α} {v : Json} {a : α} (h : d.Reads v a) (f : α → β) : (f <$> d).Reads v (f a) := by
  unfold Reads at h ⊢
  rw [ofValue_map, h]; rfl

theorem nullable_of_ne_null {d : Decoder α} {v : Json} (hv : v ≠ .null) :
    d.nullable.ofValue v = (d.ofValue v).map some := by
  cases v with
  | null => exact absurd rfl hv
  | _ => rfl

theorem Reads.nullable {d : Decoder α} {v : Json} {a : α} (h : d.Reads v a) (hn : d.RefusesNull) :
    d.nullable.Reads v (some a) := by
  obtain ⟨e, he⟩ := hn
  unfold Reads at h ⊢
  have hv : v.canonical ≠ .null := fun hv => by rw [hv, he] at h; cases h
  rw [nullable_of_ne_null hv, h]; rfl

/-- a list is read back item by item -/
theorem reads_list_map {d : Decoder β} {encode : α → Json} {f : α → β} {as : List α}
    (h : ∀ a ∈ as, d.Reads (encode a) (f a)) : (list d).Reads (.arr (as.map encode)) (as.map f) := by
  unfold Reads
  simp only [Json.canonical, list, Json.canonicalItems_eq_map]
  induction as with
  | nil => rfl
  | cons a as ih =>
    have ha : d.ofValue (encode a).canonical = .ok (f a) := h a List.mem_cons_self
    have hs := ih fun b hb => h b (List.mem_cons_of_mem _ hb)
    simp only [List.map_cons, items, ha, hs]; rfl

theorem reads_list {d : Decoder α} {encode : α → Json} {as : List α} (h : ∀ a ∈ as, d.Reads (encode a) a) :
    (list d).Reads (.arr (as.map encode)) as := by
  simpa using reads_list_map (f := id) h

/-! ### Scalars -/

theorem text_inverts : text.Inverts .str := ⟨fun _ => rfl, _, rfl⟩

theorem flag_inverts : flag.Inverts .bool := ⟨fun _ => rfl, _, rfl⟩

theorem reads_integer {wanted : String} {low high n : Int} (hl : low ≤ n) (hh : n ≤ high) :
    (integer wanted low high).Reads (.int n) n := by
  show (if low ≤ n ∧ n ≤ high then Except.ok n else _) = Except.ok n
  rw [if_pos ⟨hl, hh⟩]

/-- a type with all its integers in the range is read back from them -/
theorem integer_inverts {wanted : String} {low high : Int} {ofInt : Int → α} {toInt : α → Int}
    (h : ∀ a, low ≤ toInt a ∧ toInt a ≤ high ∧ ofInt (toInt a) = a) :
    (ofInt <$> integer wanted low high).Inverts fun a => .int (toInt a) := by
  refine ⟨fun a => ?_, _, rfl⟩
  obtain ⟨hl, hh, ha⟩ := h a
  have hint : (integer wanted low high).Reads (.int (toInt a)) (toInt a) := reads_integer hl hh
  have hread := hint.map ofInt
  rwa [ha] at hread

theorem uint8_inverts : uint8.Inverts .uint8 :=
  integer_inverts fun n => ⟨by omega, by have := n.toNat_lt; omega, by simp⟩

theorem uint16_inverts : uint16.Inverts .uint16 :=
  integer_inverts fun n => ⟨by omega, by have := n.toNat_lt; omega, by simp⟩

theorem uint32_inverts : uint32.Inverts .uint32 :=
  integer_inverts fun n => ⟨by omega, by have := n.toNat_lt; omega, by simp⟩

theorem uint64_inverts : uint64.Inverts .uint64 :=
  integer_inverts fun n => ⟨by omega, by have := n.toNat_lt; omega, by simp⟩

theorem int32_inverts : int32.Inverts .int32 :=
  integer_inverts fun n => ⟨n.le_toInt, by have := n.toInt_lt; omega, by simp⟩

theorem int64_inverts : int64.Inverts .int64 :=
  integer_inverts fun n => ⟨n.le_toInt, by have := n.toInt_lt; omega, by simp⟩

theorem reads_code {ofCode? : Nat → Option α} {n : Nat} {a : α} (hn : n ≤ 255) (h : ofCode? n = some a) :
    (code ofCode?).Reads (.int n) a := by
  show (code ofCode?).ofValue (.int n) = .ok a
  have hbyte : 0 ≤ (n : Int) ∧ (n : Int) ≤ 255 := by omega
  simp only [code, ofValue_scalar, if_pos hbyte, Int.toNat_natCast, h]

/-- a value with a number of its own is read back from the number -/
theorem code_inverts {ofCode? : Nat → Option α} {number : α → Nat}
    (h : ∀ a, number a ≤ 255 ∧ ofCode? (number a) = some a) : (code ofCode?).Inverts fun a => .int (number a) :=
  ⟨fun a => reads_code (h a).1 (h a).2, _, rfl⟩

/-- a kind that stands under its number, if it is the one that the number is read as -/
theorem reads_ofCode {κ ν : Type} {d : Decoder ν} {encode : ν → Json} {ofCode : ν → κ} {code : κ → ν}
    (hd : d.Inverts encode) {k : κ} (h : ofCode (code k) = k) : (ofCode <$> d).Reads (encode (code k)) k := by
  have hread := (hd.reads (code k)).map ofCode
  rwa [h] at hread

/-- a raw value is read as its stored form -/
theorem raw_reads (v : Json) : raw.Reads v v.canonical := congrArg Except.ok v.canonical_canonical

/-- where `null` stands for none, any other raw value is read as its stored form -/
theorem raw_nullable_reads {v : Json} (hv : v ≠ .null) : raw.nullable.Reads v (some v.canonical) := by
  have hcanonical : v.canonical ≠ .null := fun h => hv (Json.canonical_eq_null h)
  have hraw : raw.ofValue v.canonical = .ok v.canonical := raw_reads v
  unfold Reads
  rw [nullable_of_ne_null hcanonical, hraw]; rfl

end Decoder

theorem Id.inverts {k : Resource} : (Id.decode : Decoder (Id k)).Inverts Id.encode := by
  refine ⟨fun a => ?_, _, rfl⟩
  show Id.decode.ofValue (.str a.text) = .ok a
  simp only [Id.decode, Decoder.ofValue_scalar, Id.parse_text]

/-! ## Records -/

namespace Reader

variable {α β : Type}

/-- the reader takes `a` from `ms`, also where they stand among members under other keys -/
structure Undoes (r : Reader α) (ms : Members) (a : α) : Prop where
  within : Json.Within ms r.names
  reads : r.names.Nodup → ∀ {all : Members}, Json.Distinct all →
    (∀ k ∈ r.names, Json.get? k (.obj all) = Json.get? k (.obj ms)) →
      ∀ place, r.ofValues (.named (Json.canonicalMembers [] all)) place = .done a

theorem Undoes.map {r : Reader α} {ms : Members} {a : α} (h : r.Undoes ms a) (f : α → β) :
    (f <$> r).Undoes ms (f a) := by
  refine ⟨h.within, fun hn all hall hget place => ?_⟩
  show (r.ofValues _ place).map f = _
  rw [h.reads hn hall hget]; rfl

/-- two readers side by side undo what was written side by side -/
theorem Undoes.seq {r : Reader (α → β)} {x : Reader α} {ms ns : Members} {f : α → β} {a : α} (hr : r.Undoes ms f)
    (hx : x.Undoes ns a) : (r <*> x).Undoes (ms ++ ns) (f a) := by
  refine ⟨hr.within.append hx.within, fun hn all hall hget place => ?_⟩
  -- no name is shared, so each reader finds its own members and nothing of the other's
  have hsplit := List.nodup_append'.1 hn
  have hleft : ∀ k ∈ r.names, Json.get? k (.obj all) = Json.get? k (.obj ms) := by
    intro k hk
    rw [hget k (List.mem_append_left _ hk), Json.get?_append,
      hx.within.get?_eq_none (hsplit.2.2 hk), Option.or_none]
  have hright : ∀ k ∈ x.names, Json.get? k (.obj all) = Json.get? k (.obj ns) := by
    intro k hk
    rw [hget k (List.mem_append_right _ hk), Json.get?_append,
      hr.within.get?_eq_none (fun hk' => hsplit.2.2 hk' hk), Option.none_or]
  show (r.ofValues _ place).ap (x.ofValues _ _) = _
  rw [hr.reads hsplit.1 hall hleft, hx.reads hsplit.2.1 hall hright]; rfl

/-! ### Fields -/

section Fields

variable {key : String} {gap : Gap α} {d : Decoder α}

/-- a field with one member under its key is read from the member -/
theorem field_of_find {ms rest : Members} {v : Json} (hv : Json.find key ms = some (v, rest))
    (hrest : Json.find key rest = none) (place : Nat) :
    (field key gap d).ofValues (.named ms) place = .at_ (rest.length + 1) (d.ofValue v) := by
  simp only [field, readField, readNamed, hv]
  cases d.ofValue v with
  | error e => rfl
  | ok a => simp only [hrest, Reading.at_]

/-- a field without a member is what stands in its gap -/
theorem field_of_find_none {ms : Members} {a : α} (hms : Json.find key ms = none) (hgap : gap.named = some a)
    (place : Nat) : (field key gap d).ofValues (.named ms) place = .done a := by
  simp only [field, readField, readNamed, hms, hgap]

theorem field_of_get? {all : Members} {v : Json} {a : α} (hall : Json.Distinct all)
    (hv : Json.get? key (.obj all) = some v) (hd : d.Reads v a) (place : Nat) :
    (field key gap d).ofValues (.named (Json.canonicalMembers [] all)) place = .done a := by
  have hget := Json.get?_canonicalMembers key hall
  rw [hv, Option.map_some] at hget
  obtain ⟨rest, hfind, hnot⟩ := Json.find_eq_some (Json.distinct_canonicalMembers hall) (Json.mem_of_get? hget)
  have hd' : d.ofValue v.canonical = .ok a := hd
  rw [field_of_find hfind hnot, hd']; rfl

theorem field_of_gap {all : Members} {a : α} (hall : Json.Distinct all) (hv : Json.get? key (.obj all) = none)
    (hgap : gap.named = some a) (place : Nat) :
    (field key gap d).ofValues (.named (Json.canonicalMembers [] all)) place = .done a := by
  have hget := Json.get?_canonicalMembers key hall
  rw [hv, Option.map_none, Json.get?, Option.map_eq_none_iff] at hget
  exact field_of_find_none hget hgap place

/-- a field that is always written -/
theorem undoes_field {v : Json} {a : α} (hd : d.Reads v a) : (field key gap d).Undoes (member key v) a := by
  refine ⟨Json.within_member _ _, fun _ all hall hget place => field_of_get? hall ?_ hd place⟩
  rw [hget key List.mem_cons_self]
  simp [Json.get?, Json.find, member]

/-- a field that is left out for the value that stands in its gap -/
theorem undoes_absent {a : α} (hgap : gap.named = some a) : (field key gap d).Undoes [] a := by
  refine ⟨List.nil_sublist _, fun _ all hall hget place => field_of_gap hall ?_ hgap place⟩
  rw [hget key List.mem_cons_self]; rfl

theorem undoes_optional {encode : α → Json} (hd : d.Inverts encode) (o : Option α) :
    (optional key d).Undoes (memberSome key encode o) o := by
  cases o with
  | none => exact undoes_absent rfl
  | some a => exact undoes_field ((hd.reads a).nullable hd.refusesNull)

/-- a value that comes back changed, where it is there -/
theorem undoes_optional_map {d : Decoder β} {encode : α → Json} {f : α → β} {o : Option α}
    (h : ∀ a ∈ o, d.Reads (encode a) (f a)) (hn : d.RefusesNull) :
    (optional key d).Undoes (memberSome key encode o) (o.map f) := by
  cases o with
  | none => exact undoes_absent rfl
  | some a => exact undoes_field ((h a rfl).nullable hn)

theorem undoes_optional_of {encode : α → Json} {o : Option α} (h : ∀ a ∈ o, d.Reads (encode a) a)
    (hn : d.RefusesNull) : (optional key d).Undoes (memberSome key encode o) o := by
  simpa using undoes_optional_map (f := id) h hn

/-- a raw value comes back in its stored form, where it is there -/
theorem undoes_raw {encode : α → Json} {o : Option α} (h : ∀ a ∈ o, encode a ≠ .null) :
    (optional key Decoder.raw).Undoes (memberSome key encode o) (o.map fun a => (encode a).canonical) := by
  cases o with
  | none => exact undoes_absent rfl
  | some a => exact undoes_field (Decoder.raw_nullable_reads (h a rfl))

/-- values that come back changed, where there are any -/
theorem undoes_list_map {d : Decoder β} {encode : α → Json} {f : α → β} {as : List α}
    (h : ∀ a ∈ as, d.Reads (encode a) (f a)) :
    (defaulted key [] (Decoder.list d)).Undoes (memberList key encode as) (as.map f) := by
  cases as with
  | nil => exact undoes_absent rfl
  | cons a as => exact undoes_field (Decoder.reads_list_map h)

theorem undoes_list {encode : α → Json} {as : List α} (hd : ∀ a ∈ as, d.Reads (encode a) a) :
    (defaulted key [] (Decoder.list d)).Undoes (memberList key encode as) as := by
  cases as with
  | nil => exact undoes_absent rfl
  | cons a as => exact undoes_field (Decoder.reads_list hd)

theorem undoes_flag (b : Bool) : (defaulted key false Decoder.flag).Undoes (memberFlag key b) b := by
  cases b with
  | false => exact undoes_absent rfl
  | true => exact undoes_field (Decoder.flag_inverts.reads true)

end Fields

/-- a record is read back from its members -/
theorem Undoes.decodeMembers {r : Reader α} {ms : Members} {a : α} (h : r.Undoes ms a) (hn : r.names.Nodup) :
    r.decodeMembers (Json.canonicalMembers [] ms) = .ok a := by
  unfold Reader.decodeMembers
  rw [h.reads hn (h.within.distinct hn) fun _ _ => rfl]; rfl

/-- a record that is written as its members alone is read back -/
theorem Undoes.decode {r : Reader α} {name : String} {ms : Members} {a : α} (h : r.Undoes ms a)
    (hn : r.names.Nodup) : (r.decode name).Reads (.obj ms) a :=
  h.decodeMembers hn

/-- a record is read back from its members with one more, under another key, in front of them -/
theorem Undoes.decodeMembers_cons {r : Reader α} {ms : Members} {a : α} (h : r.Undoes ms a) {key : String}
    (hn : (key :: r.names).Nodup) (v : Json) :
    r.decodeMembers (Json.canonicalMembers [] (member key v ++ ms)) = .ok a := by
  have hkey := List.nodup_cons.1 hn
  have hall : Json.Distinct (member key v ++ ms) := ((Json.within_member key v).append h.within).distinct hn
  unfold Reader.decodeMembers
  rw [h.reads hkey.2 hall fun k hk => ?_]
  · rfl
  · rw [Json.get?_append, (Json.within_member key v).get?_eq_none, Option.none_or]
    exact fun hmem => hkey.1 (List.mem_singleton.1 hmem ▸ hk)

end Reader

end InteractionKit
