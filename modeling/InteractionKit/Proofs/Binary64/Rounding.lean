import InteractionKit.Binary64
import Mathlib.Algebra.Group.Nat.Defs
/-
Doubles nearest to large integers, and their whole parts.

The bits of a double without its sign are in the order of its value. So a bound on them is a bound on the whole part, and
rounding keeps a bound that is itself a power of two: an integer that is too large for 64 signed bits stays so, and is
held at the end of the range on its side.

- `lastPlace_of_le`: the last place of a double with more than fifty-three bits to round.
- `le_nearest`: rounding never falls below a power of two.
- `le_wholePart`: what a bound on the bits says about the whole part.
- `toInt64_ofDecimal_of_le`: a large integer as 64 signed bits, past the double nearest to it.
-/
namespace InteractionKit

namespace Binary64

variable {n k m : Nat} {negative : Bool} {x : Binary64}

/-! ## Signs -/

theorem isNegative_ofSigned (h : m < signBit) : (ofSigned negative m).isNegative = negative := by
  unfold signBit at h
  cases negative <;> simp [isNegative, ofSigned, signBit, UInt64.toNat_ofNat'] <;> omega

theorem magnitude_ofSigned (h : m < signBit) : (ofSigned negative m).magnitude = m := by
  unfold signBit at h
  cases negative <;> simp [magnitude, ofSigned, signBit, UInt64.toNat_ofNat'] <;> omega

/-! ## Rounding -/

/-- rounding never falls below a whole number -/
theorem div_le_roundDiv (num den : Nat) : num / den ≤ roundDiv num den := by
  unfold roundDiv
  dsimp only
  split
  · exact Nat.le_refl _
  · split
    · exact Nat.le_refl _
    · exact Nat.le_succ _

theorem scaleDown_natCast (num den q : Nat) : scaleDown num den q = (num, den <<< q) := by
  have hq : ¬ (q : Int) < 0 := by omega
  rw [scaleDown, if_neg hq, Int.toNat_natCast]

/-- the first bits of a number, taken alone, are a number of as many bits -/
theorem two_pow_le_div {p q : Nat} (hn : n ≠ 0) (h : p + q = n.log2) : 2 ^ p ≤ n / 2 ^ q := by
  rw [Nat.le_div_iff_mul_le (Nat.two_pow_pos q), ← Nat.pow_add, h]
  exact Nat.log2_self_le hn

/-- of an integer with more bits than a double holds, the last place is fifty-two bits below the first -/
theorem lastPlace_of_le (h : 2 ^ 53 ≤ n) : lastPlace n 1 = (n.log2 - 52 : Nat) := by
  have hn : n ≠ 0 := by omega
  have hlog : 53 ≤ n.log2 := (Nat.le_log2 hn).2 h
  have hone : Nat.log2 1 = 0 := by decide
  have hq : max ((n.log2 : Int) - (Nat.log2 1 : Int) - 53) (-1074) = (n.log2 - 53 : Nat) := by
    rw [hone]
    omega
  have hbits : 2 * leadingBit ≤ n / 2 ^ (n.log2 - 53) := two_pow_le_div hn (Nat.add_sub_cancel' hlog)
  unfold lastPlace
  simp only [hq, scaleDown_natCast, Nat.one_shiftLeft]
  rw [if_neg (Nat.not_lt.2 hbits)]
  omega

/-- an integer is never rounded below a power of two, whose own bits are the bound -/
theorem le_nearest (hk : 53 ≤ k) (hfinite : k < 1024) (h : 2 ^ k ≤ n) : (k + 1023) * leadingBit ≤ nearest n 1 := by
  have hn : n ≠ 0 := by
    have := Nat.two_pow_pos k
    omega
  have hlog : k ≤ n.log2 := (Nat.le_log2 hn).2 h
  have hlarge : 2 ^ 53 ≤ n := Nat.le_trans (Nat.pow_le_pow_right (by decide) hk) h
  have hfraction : leadingBit ≤ roundDiv n (1 <<< (n.log2 - 52)) := by
    have hbits : leadingBit ≤ n / 2 ^ (n.log2 - 52) := two_pow_le_div (p := 52) hn (by omega)
    rw [Nat.one_shiftLeft]
    exact Nat.le_trans hbits (div_le_roundDiv _ _)
  have hexponent : ((n.log2 - 52 : Nat) + 1074 : Int).toNat = n.log2 + 1022 := by omega
  unfold nearest
  rw [if_neg hn]
  simp only [lastPlace_of_le hlarge, scaleDown_natCast, hexponent]
  refine Nat.le_min.2 ⟨?_, ?_⟩
  · calc (k + 1023) * leadingBit ≤ (n.log2 + 1023) * leadingBit := Nat.mul_le_mul_right _ (by omega)
      _ = leadingBit + (n.log2 + 1022) * leadingBit := by rw [Nat.add_comm leadingBit, ← Nat.succ_mul]
      _ ≤ _ := Nat.add_le_add_right hfraction _
  · calc (k + 1023) * leadingBit ≤ 2047 * leadingBit := Nat.mul_le_mul_right _ (by omega)
      _ = infinityBits := rfl

theorem nearest_le_infinity (num den : Nat) : nearest num den ≤ infinityBits := by
  unfold nearest
  split
  · exact Nat.zero_le _
  · exact Nat.min_le_right _ _

/-! ## Whole parts -/

/-- a double with at least the bits of a power of two has at least this power as its whole part -/
theorem le_wholePart (hk : 52 ≤ k) (h : (k + 1023) * leadingBit ≤ x.magnitude) : 2 ^ k ≤ x.wholePart := by
  have hexponent : k + 1023 ≤ x.magnitude / leadingBit := (Nat.le_div_iff_mul_le (by decide)).2 h
  unfold wholePart
  generalize x.magnitude / leadingBit = e at hexponent
  have hzero : e ≠ 0 := by omega
  have hlarge : 1075 ≤ e := by omega
  have hmax : max e 1 = e := Nat.max_eq_left (by omega)
  simp only [hzero, hmax, hlarge, if_true, if_false, Nat.shiftLeft_eq]
  calc 2 ^ k = 2 ^ 52 * 2 ^ (k - 52) := by rw [← Nat.pow_add, Nat.add_sub_cancel' hk]
    _ ≤ (x.magnitude % leadingBit + leadingBit) * 2 ^ (e - 1075) :=
      Nat.mul_le_mul (Nat.le_add_left _ _) (Nat.pow_le_pow_right (by decide) (by omega))

/-- a double from `2 ^ 63` on, infinity with them, is held at the end of the range -/
theorem toInt64_of_le (h : (63 + 1023) * leadingBit ≤ x.magnitude) (hnumber : x.magnitude ≤ infinityBits) :
    x.toInt64 = if x.isNegative then -9223372036854775808 else 9223372036854775807 := by
  have hnan : x.isNaN = false := by simpa [isNaN] using hnumber
  have hwhole : 2 ^ 63 ≤ x.wholePart := le_wholePart (by decide) h
  unfold toInt64 clamp64
  rw [hnan]
  cases x.isNegative <;> cases x.isInfinite <;> simp <;> omega

/-- the integers from `2 ^ 63` on, and from `-2 ^ 63` down: the double nearest to each is held at the end of the range -/
theorem toInt64_ofDecimal_of_le (h : 9223372036854775808 ≤ m) :
    (ofDecimal negative m 0).toInt64 = if negative then -9223372036854775808 else 9223372036854775807 := by
  have hm : m ≠ 0 := by omega
  have hdecimal : ofDecimal negative m 0 = ofSigned negative (nearest m 1) := by
    simp [ofDecimal, hm]
  have hle : nearest m 1 ≤ infinityBits := nearest_le_infinity m 1
  have hsign : nearest m 1 < signBit := Nat.lt_of_le_of_lt hle (by decide)
  have hbits : (63 + 1023) * leadingBit ≤ nearest m 1 := le_nearest (by decide) (by decide) h
  rw [hdecimal, toInt64_of_le, isNegative_ofSigned hsign]
  · rwa [magnitude_ofSigned hsign]
  · rwa [magnitude_ofSigned hsign]

end Binary64

end InteractionKit
