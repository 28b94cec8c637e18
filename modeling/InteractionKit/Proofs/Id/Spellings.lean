import InteractionKit.Proofs.Interaction.Resolved
import InteractionKit.Proofs.Lists
import Mathlib.Data.List.Induction
/-
Ids as decimal numbers.

A text is read as an id when it spells the number of the id: digits, with at most one plus and any zeros in front. A
quoted id is such a text. An integer is read like its text, and a key of a table like a quoted id, so that keys may spell
one id twice, and then the later entry counts. An id is written in one of its spellings, the one without plus and zeros.

- `Id.decode_str_iff`, `Id.decode_int_iff`, `Id.decode_int_eq`: quoted ids, integers, and that the two agree.
- `Id.plain_text`: what is written for an id.
- `Table.get?_insertAll_eq`, `Table.ofMembers_empty_iff`: the entries of a table under keys that may spell one id twice.
- `ids_from_decimals`: what an id is read from, exactly, and what is written for it.
-/
namespace InteractionKit

namespace Id

variable {k : Resource} {a : Id k} {s : String} {z : Int}

/-! ## Reading -/

theorem decode_str_iff : decode (.str s) = .ok a ↔ parse s = .ok a := by
  simp only [decode, Decoder.ofValue_scalar]
  cases (parse s : Except IntegerError (Id k)) <;> simp

theorem decode_int_iff : decode (.int z) = .ok a ↔ (a.val : Int) = z := by
  have hof : decode (.int z) = .ok a ↔ (ofNat? z.toNat : Option (Id k)) = some a := by
    simp only [decode, Decoder.ofValue_scalar]
    cases (ofNat? z.toNat : Option (Id k)) <;> simp
  rw [hof, ofNat?_eq_some_iff]
  have hpos := a.pos
  omega

/-- some id has a number just when the number is positive and has 64 bits -/
theorem exists_val_iff : (∃ b : Id k, (b.val : Int) = z) ↔ 1 ≤ z ∧ z < 18446744073709551616 := by
  constructor
  · rintro ⟨b, rfl⟩
    have hpos := b.pos
    have hlt := b.lt
    omega
  · rintro ⟨hpos, hlt⟩
    exact ⟨⟨z.toNat, by omega, by omega⟩, Int.toNat_of_nonneg (by omega)⟩

/-- an integer that is no id is a wrong value -/
theorem decode_int_error {e : ReadError} (h : (decode : Decoder (Id k)) (.int z) = .error e) :
    e = .wrongValue (.integer z) wanted := by
  simp only [decode, Decoder.ofValue_scalar] at h
  split at h <;> cases h
  rfl

/-- a text that is no id is a wrong value -/
theorem decode_str_error {e : ReadError} (h : (decode : Decoder (Id k)) (.str s) = .error e) :
    e = .wrongValue (.text s) wanted := by
  simp only [decode, Decoder.ofValue_scalar] at h
  split at h <;> cases h
  rfl

/-- the text of an integer is read as the integer with this number -/
theorem decode_str_toString : decode (.str (toString z)) = .ok a ↔ (a.val : Int) = z := by
  rw [decode_str_iff, parse_eq_ok_iff]
  constructor
  · intro h
    exact h.spells.unique (spells_toString z)
  · rintro rfl
    exact .inl a.digits_text

/-- an integer is read as its text is; where neither is an id, both are refused as wrong values -/
theorem decode_int_eq (z : Int) : ((decode : Decoder (Id k)) (.int z)).mapError ReadError.message =
    ((decode : Decoder (Id k)) (.str (toString z))).mapError ReadError.message := by
  cases hint : (decode : Decoder (Id k)) (.int z) with
  | ok a => rw [decode_str_toString.2 (decode_int_iff.1 hint)]
  | error e =>
    cases hstr : (decode : Decoder (Id k)) (.str (toString z)) with
    | ok a =>
      rw [decode_int_iff.2 (decode_str_toString.1 hstr)] at hint
      cases hint
    | error e' =>
      rw [decode_int_error hint, decode_str_error hstr]
      rfl

theorem int_or_str_of_decode {v : Json} (h : decode v = .ok a) : (∃ z, v = .int z) ∨ ∃ s, v = .str s := by
  cases v with
  | int z => exact .inl ⟨z, rfl⟩
  | str s => exact .inr ⟨s, rfl⟩
  | _ => cases h

/-! ## Writing -/

/-- the digits of a number, without a sign and without zeros in front -/
structure Plain (cs : List Char) (n : Nat) : Prop where
  digits : Digits cs n
  head : cs.head? ≠ some '0'

theorem plain_text (a : Id k) : Plain a.text.toList a.val := by
  refine ⟨a.digits_text, ?_⟩
  rw [toList_text]
  exact head?_toDigits_ne_zero a.pos

/-- whatever an id was read from, it is written in one way -/
theorem encode_of_spells {n : Nat} (h : SpellsNatural s.toList n) (hpos : 1 ≤ n) (hlt : n < 18446744073709551616) :
    ((decode : Decoder (Id k)) (.str s)).map encode = .ok (.str (toString n)) := by
  let a : Id k := ⟨n, hpos, hlt⟩
  have hread : decode (.str s) = .ok a := decode_str_iff.2 (parse_eq_ok_iff.2 h)
  rw [hread]
  rfl

end Id

/-! ## Keys -/

namespace Table

variable {k : Resource} {α : Type}

/-- what an entry has under an id -/
def valueUnder (a : Id k) (e : Id k × α) : Option α := if e.1 = a then some e.2 else none

/-- of the entries with one id the last counts -/
theorem get?_insertAll_eq (t : Table k α) (es : List (Id k × α)) (a : Id k) :
    (t.insertAll es).get? a = (lastWord (valueUnder a) es).or (t.get? a) := by
  induction es using List.reverseRecOn with
  | nil => rfl
  | append_singleton es e ih =>
    have hstep : t.insertAll (es ++ [e]) = (t.insertAll es).insert e.1 e.2 := by
      rw [insertAll, List.foldl_append]
      rfl
    rw [hstep, get?_insert, lastWord_append, lastWord_singleton, Option.or_assoc, ← ih, valueUnder]
    by_cases ha : e.1 = a
    · simp [ha]
    · simp [ha, Ne.symm ha]

/-- a table is read from an object just when each member is read as an entry, and the last entry for an id counts -/
theorem ofMembers_empty_iff {ν ε : Type} {fault : ReadError → ε} {decode : ν → Except ε α} {ms : List (String × ν)}
    {t : Table k α} : ofMembers fault decode empty ms = .ok t ↔
      ∃ es, List.Forall₂ (ReadsAs decode) ms es ∧ ∀ a, t.get? a = lastWord (valueUnder a) es := by
  rw [ofMembers_eq_ok_iff]
  constructor
  · rintro ⟨es, hes, rfl⟩
    refine ⟨es, hes, fun a => ?_⟩
    rw [get?_insertAll_eq, get?_empty, Option.or_none]
  · rintro ⟨es, hes, ht⟩
    refine ⟨es, hes, ext_get? fun a => ?_⟩
    rw [ht, get?_insertAll_eq, get?_empty, Option.or_none]

end Table

/-! ## Main result -/

/-- **Ids as decimal numbers.** A text is read as an id just when it spells the number of the id, and quoted it is read
just then too. An integer is read when it is positive and has 64 bits; it is read like its text, or refused for the same
sort of fault, and no other value is read, from a text no more than by itself. A table is read from an object whose keys
are read as ids and whose values are read; of the entries for one id the last counts, however their keys are spelled. An
id is written as its digits without sign or zeros in front, is read back from them, and is written so whatever it was
read from. -/
theorem ids_from_decimals {k : Resource} {α : Type} (s : String) (z : Int) (v : Json) (a : Id k) (d : Decoder α)
    (ms : Members) (t : Table k α) :
    ((∃ b : Id k, Id.parse s = .ok b) ↔ ∃ n, SpellsNatural s.toList n ∧ 1 ≤ n ∧ n < 18446744073709551616) ∧
    (Id.parse s = .ok a ↔ SpellsNatural s.toList a.val) ∧
    (Id.decode (.str s) = .ok a ↔ Id.parse s = .ok a) ∧
    ((∃ b : Id k, Id.decode (.int z) = .ok b) ↔ 1 ≤ z ∧ z < 18446744073709551616) ∧
    ((Id.decode : Decoder (Id k)) (.int z)).mapError ReadError.message =
      ((Id.decode : Decoder (Id k)) (.str (toString z))).mapError ReadError.message ∧
    (Id.decode v = .ok a → (∃ m, v = .int m) ∨ ∃ u, v = .str u) ∧
    (∀ b : Draft, Id.decode.ofDraft b = .ok a ↔ ∃ w, b = .scalar w ∧ Id.decode w = .ok a) ∧
    (Table.decode d (.obj ms) = .ok t ↔ ∃ es : List (Id k × α),
      List.Forall₂ (fun m e => Id.parse m.1 = .ok e.1 ∧ d m.2 = .ok e.2) ms es ∧
        ∀ b, t.get? b = lastWord (Table.valueUnder b) es) ∧
    (∀ bs : List (String × Draft), (Table.decode d).ofDraft (.obj bs none) = .ok t ↔ ∃ es : List (Id k × α),
      List.Forall₂ (fun m e => Id.parse m.1 = .ok e.1 ∧ d.ofDraft m.2 = .ok e.2) bs es ∧
        ∀ b, t.get? b = lastWord (Table.valueUnder b) es) ∧
    Id.Plain a.text.toList a.val ∧ Id.parse a.text = .ok a ∧
    (∀ n, SpellsNatural s.toList n → 1 ≤ n → n < 18446744073709551616 →
      ((Id.decode : Decoder (Id k)) (.str s)).map Id.encode = .ok (.str (toString n))) := by
  refine ⟨?_, Id.parse_eq_ok_iff, Id.decode_str_iff, ?_, Id.decode_int_eq z, Id.int_or_str_of_decode,
    fun _ => Decoder.ofDraft_scalar_eq_ok_iff, Table.ofMembers_empty_iff, fun bs => ?_, a.plain_text, a.parse_text,
    fun _ => Id.encode_of_spells⟩
  · simp only [Id.parse_eq_ok_iff]
    constructor
    · rintro ⟨b, hb⟩
      exact ⟨b.val, hb, b.pos, b.lt⟩
    · rintro ⟨n, hn, hpos, hlt⟩
      exact ⟨⟨n, hpos, hlt⟩, hn⟩
  · simp only [Id.decode_int_iff]
    exact Id.exists_val_iff
  · have hwhole : (Table.decode d).ofDraft (.obj bs none) = .ok t ↔
        Table.ofMembers TextError.unfit d.ofDraft .empty bs = .ok t := by
      show Decoder.upTo none (Table.ofMembers TextError.unfit d.ofDraft .empty bs) = .ok t ↔ _
      cases Table.ofMembers TextError.unfit d.ofDraft (.empty : Table k α) bs <;> rfl
    rw [hwhole]
    exact Table.ofMembers_empty_iff

example : (Id.decode : Decoder UserId) (.str "+00129") = .ok ⟨129, by decide, by decide⟩ := by rfl

end InteractionKit
