import InteractionKit.Permissions
import InteractionKit.Proofs.Text.Decimal
/-
Permission sets as integers.

A set stands for its bits as an integer of 64 bits, and is read from such an integer whether it is signed or not and
quoted or not. A quoted one may have a plus, and zeros in front. Nothing else is read, and what is written for a set is
read as that set, its unnamed flags with it.

An integer arrives as an unsigned word, or if it is negative as a signed one; a text goes through a parser of unsigned
words first, and what this one refuses through one of signed words. The bits of a signed word are taken as they are.

- `Permissions.Denotes`: the integers that a set is read from.
- `Permissions.denotes_unsigned`, `Permissions.denotes_signed`: the bits of the two sorts of words.
- `Permissions.parse?_eq_some_iff`: the texts that one of the two parsers takes.
- `Permissions.decode_int_iff`, `Permissions.decode_str_iff`: unquoted and quoted.
- `permissions_from_integers`: what a set is read from, exactly.
-/
namespace InteractionKit

namespace Permissions

variable {a : Permissions} {n : Int} {s : String}

/-- a set that has the bits of an integer from `-2 ^ 63` to below `2 ^ 64` -/
structure Denotes (n : Int) (a : Permissions) : Prop where
  low : -9223372036854775808 ≤ n
  high : n < 18446744073709551616
  /-- the integer modulo `2 ^ 64` -/
  bits : (a.bits.toNat : Int) = n % 18446744073709551616

theorem Denotes.unique {b : Permissions} (ha : Denotes n a) (hb : Denotes n b) : a = b := by
  obtain ⟨v⟩ := a
  obtain ⟨w⟩ := b
  have hbits : v = w := BitVec.eq_of_toNat_eq (Int.ofNat_inj.1 (ha.bits.trans hb.bits.symm))
  rw [hbits]

theorem Denotes.eq_iff {b : Permissions} (hb : Denotes n b) : b = a ↔ Denotes n a := by
  constructor
  · rintro rfl
    exact hb
  · exact hb.unique

/-- an unsigned word has the bits of its number -/
theorem denotes_unsigned (hlow : 0 ≤ n) (hhigh : n ≤ 18446744073709551615) :
    Denotes n (ofWord (UInt64.ofNat n.toNat)) := by
  have hlt : n.toNat < 18446744073709551616 := by omega
  have hbits : (ofWord (UInt64.ofNat n.toNat)).bits.toNat = n.toNat := UInt64.toNat_ofNat_of_lt' hlt
  exact ⟨by omega, by omega, by rw [hbits]; omega⟩

/-- a signed word that is taken as it is has the bits of its number modulo `2 ^ 64` -/
theorem denotes_signed (hlow : -9223372036854775808 ≤ n) (hhigh : n ≤ 9223372036854775807) :
    Denotes n (ofWord (Int64.ofInt n).toUInt64) := by
  have hword : (ofWord (Int64.ofInt n).toUInt64).bits = BitVec.ofInt 64 n := Int64.toBitVec_ofInt n
  have hbits : ((BitVec.ofInt 64 n).toNat : Int) = n % 18446744073709551616 := by
    rw [BitVec.toNat_ofInt]
    exact Int.toNat_of_nonneg (Int.emod_nonneg n (by decide))
  exact ⟨hlow, by omega, by rw [hword, hbits]⟩

theorem ofInt?_eq_some_iff : ofInt? n = some a ↔ Denotes n a := by
  unfold ofInt? unsignedWord? signedWord?
  by_cases hunsigned : 0 ≤ n ∧ n ≤ 18446744073709551615
  · rw [if_pos hunsigned, Option.some_or, Option.map_some, Option.some.injEq]
    exact (denotes_unsigned hunsigned.1 hunsigned.2).eq_iff
  rw [if_neg hunsigned, Option.none_or]
  by_cases hsigned : -9223372036854775808 ≤ n ∧ n < 0
  · rw [if_pos hsigned, Option.map_some, Option.some.injEq]
    exact (denotes_signed hsigned.1 (by omega)).eq_iff
  · rw [if_neg hsigned]
    refine iff_of_false nofun ?_
    intro h
    have hlow := h.low
    have hhigh := h.high
    omega

/-- every integer of 64 bits gives a set -/
theorem exists_denotes_iff : (∃ a, Denotes n a) ↔ -9223372036854775808 ≤ n ∧ n < 18446744073709551616 := by
  constructor
  · rintro ⟨a, h⟩
    exact ⟨h.low, h.high⟩
  · rintro ⟨hlow, hhigh⟩
    by_cases hsigned : n ≤ 9223372036854775807
    · exact ⟨_, denotes_signed hlow hsigned⟩
    · exact ⟨_, denotes_unsigned (by omega) (by omega)⟩

/-- what is read of a text that spells an integer is the set of the integer -/
theorem some_eq_some_iff_of_spells {b : Permissions} (hn : Spells s.toList n) (hb : Denotes n b) :
    some b = some a ↔ ∃ m, Spells s.toList m ∧ Denotes m a := by
  rw [Option.some.injEq, hb.eq_iff]
  constructor
  · intro ha
    exact ⟨n, hn, ha⟩
  · rintro ⟨m, hm, ha⟩
    rwa [hn.unique hm]

/-- Of the two parsers the first takes the texts of unsigned words. What it leaves to the second is negative, or zero
behind a minus, if it has 64 bits. -/
theorem parse?_eq_some_iff : parse? s = some a ↔ ∃ n, Spells s.toList n ∧ Denotes n a := by
  unfold parse? parseWord
  cases hnatural : readNatural 18446744073709551615 s.toList with
  | ok m =>
    obtain ⟨hm, hle⟩ := readNatural_eq_ok_iff.1 hnatural
    exact some_eq_some_iff_of_spells hm.spells (denotes_unsigned (by omega) (by omega))
  | error e =>
    cases hinteger : readInteger 9223372036854775808 9223372036854775807 s.toList with
    | ok m =>
      obtain ⟨hm, hlow, hhigh⟩ := readInteger_eq_ok_iff.1 hinteger
      exact some_eq_some_iff_of_spells hm (denotes_signed hlow hhigh)
    | error e' =>
      refine iff_of_false nofun ?_
      rintro ⟨n, hn, h⟩
      have hlow := h.low
      have hhigh := h.high
      by_cases hsigned : n ≤ 9223372036854775807
      · rw [readInteger_eq_ok_iff.2 ⟨hn, by omega, by omega⟩] at hinteger
        cases hinteger
      · rw [readNatural_eq_ok_iff.2 ⟨hn.natural (by omega), by omega⟩] at hnatural
        cases hnatural

/-- a set is read back from its text -/
theorem parse?_text (a : Permissions) : parse? a.text = some a := by
  have hlt : a.bits.toNat < 18446744073709551616 := a.bits.isLt
  have hdigits : a.text.toList = Nat.toDigits 10 a.bits.toNat := by simp [text]
  refine parse?_eq_some_iff.2 ⟨a.bits.toNat, ?_, ⟨by omega, by omega, by omega⟩⟩
  rw [hdigits]
  exact .bare (digits_zeros 0 _)

/-! ## Reading -/

theorem decode_int_iff : decode (.int n) = .ok a ↔ Denotes n a := by
  rw [← ofInt?_eq_some_iff]
  simp only [decode, Decoder.ofValue_scalar]
  cases ofInt? n <;> simp

theorem decode_str_iff : decode (.str s) = .ok a ↔ ∃ n, Spells s.toList n ∧ Denotes n a := by
  rw [← parse?_eq_some_iff]
  simp only [decode, Decoder.ofValue_scalar]
  cases parse? s <;> simp

/-- an integer is read the same quoted, however it is spelled -/
theorem decode_str_of_spells (h : Spells s.toList n) : decode (.str s) = .ok a ↔ decode (.int n) = .ok a := by
  rw [decode_str_iff, decode_int_iff]
  refine ⟨?_, fun hn => ⟨n, h, hn⟩⟩
  rintro ⟨m, hm, ha⟩
  rwa [h.unique hm]

theorem int_or_str_of_decode {v : Json} (h : decode v = .ok a) : (∃ n, v = .int n) ∨ ∃ s, v = .str s := by
  cases v with
  | int n => exact .inl ⟨n, rfl⟩
  | str s => exact .inr ⟨s, rfl⟩
  | _ => cases h

theorem decode_encode (a : Permissions) : decode a.encode = .ok a := by
  simp only [encode, decode, Decoder.ofValue_scalar, parse?_text]

end Permissions

/-! ## Main result -/

/-- **Permission sets as integers.** A quoted set is read just from a text that spells an integer from `-2 ^ 63` to below
`2 ^ 64`: digits, with at most one sign in front. It has the bits of that integer, which are the integer modulo `2 ^ 64`.
Unquoted the same integers are read as the same sets. No other value is read, in a text no more than by itself; and every
set is read from what is written for it. -/
theorem permissions_from_integers (s : String) (n : Int) (v : Json) (a : Permissions) :
    ((∃ b, Permissions.decode (.str s) = .ok b) ↔
      ∃ m, Spells s.toList m ∧ -9223372036854775808 ≤ m ∧ m < 18446744073709551616) ∧
    (Permissions.decode (.str s) = .ok a ↔ ∃ m, Spells s.toList m ∧ Permissions.Denotes m a) ∧
    ((∃ b, Permissions.decode (.int n) = .ok b) ↔ -9223372036854775808 ≤ n ∧ n < 18446744073709551616) ∧
    (Permissions.decode (.int n) = .ok a ↔ Permissions.Denotes n a) ∧
    (Spells s.toList n → (Permissions.decode (.str s) = .ok a ↔ Permissions.decode (.int n) = .ok a)) ∧
    (Permissions.decode v = .ok a → (∃ m, v = .int m) ∨ ∃ t, v = .str t) ∧
    (∀ d, Permissions.decode.ofDraft d = .ok a ↔ ∃ w, d = .scalar w ∧ Permissions.decode w = .ok a) ∧
    Permissions.decode a.encode = .ok a := by
  refine ⟨?_, Permissions.decode_str_iff, ?_, Permissions.decode_int_iff, Permissions.decode_str_of_spells,
    Permissions.int_or_str_of_decode, fun _ => Decoder.ofDraft_scalar_eq_ok_iff, a.decode_encode⟩
  · simp only [Permissions.decode_str_iff, ← Permissions.exists_denotes_iff]
    exact ⟨fun ⟨b, m, hm, hb⟩ => ⟨m, hm, b, hb⟩, fun ⟨m, hm, b, hb⟩ => ⟨b, m, hm, hb⟩⟩
  · simp only [Permissions.decode_int_iff, Permissions.exists_denotes_iff]

example : Permissions.decode (.str "-0001") = .ok ⟨18446744073709551615⟩ := by rfl

example : Permissions.decode (.str "+18446744073709551616") = .error (.notPermissions "+18446744073709551616") := by
  rfl

end InteractionKit
