import InteractionKit.Text.Integer
/-
Double-precision numbers, by their 64 bits, in exact integer arithmetic.

- `Binary64.nearest`: the double nearest to a quotient, a tie going to the even neighbour.
- `Binary64.ofDecimal`: the double nearest to `m · 10 ^ e`.
- `Binary64.ofText?`: decimal text with optional sign, point and exponent, and the names of the infinities and of
  not-a-number.
- `Binary64.toInt64`: the whole part, held within 64 signed bits.
-/
namespace InteractionKit

/-- a double, by its bits: sign, eleven bits of exponent, fifty-two of fraction -/
structure Binary64 where
  bits : UInt64
deriving DecidableEq, Repr, Inhabited

namespace Binary64

/-! ## Rounding -/

/-- the bits of infinity, and of not-a-number with a fraction beside them -/
def infinityBits : Nat := 0x7FF0000000000000

/-- the bit of the sign -/
def signBit : Nat := 0x8000000000000000

/-- the bit above the fraction: one in every full-width double, and one step of the exponent -/
def leadingBit : Nat := 0x10000000000000

/-- a double from a sign and the bits without the sign -/
def ofSigned (negative : Bool) (magnitude : Nat) : Binary64 :=
  ⟨UInt64.ofNat (if negative then magnitude + signBit else magnitude)⟩

def nan : Binary64 := ofSigned false (infinityBits + leadingBit / 2)

/-- `num / den` to the nearest whole number, a half to the even one -/
def roundDiv (num den : Nat) : Nat :=
  let k := num / den
  let r := num % den
  if 2 * r < den then k
  else if 2 * r = den ∧ k % 2 = 0 then k
  else k + 1

/-- `num / den` divided by `2 ^ q`, as a quotient -/
def scaleDown (num den : Nat) (q : Int) : Nat × Nat :=
  if q < 0 then (num <<< (-q).toNat, den) else (num, den <<< q.toNat)

/-- the power of two that the last bit of the double nearest to `num / den` stands for -/
def lastPlace (num den : Nat) : Int :=
  let q := max ((num.log2 : Int) - (den.log2 : Int) - 53) (-1074)
  let (n, d) := scaleDown num den q
  if n / d < 2 * leadingBit then q else q + 1

/-- the bits, without sign, of the double nearest to `num / den` -/
def nearest (num den : Nat) : Nat :=
  if num = 0 then 0
  else
    let q := lastPlace num den
    let (n, d) := scaleDown num den q
    min (roundDiv n d + (q + 1074).toNat * leadingBit) infinityBits

/-- the double nearest to `± m · 10 ^ e`. An exponent past every double is settled without the power of ten. -/
def ofDecimal (negative : Bool) (m : Nat) (e : Int) : Binary64 :=
  ofSigned negative <|
    if m = 0 then 0
    else if 0 ≤ e then
      if 400 < e then infinityBits else nearest (m * Nat.pow 10 e.toNat) 1
    else if (m.log2 : Int) + 3 * e < -1200 then 0
    else nearest m (Nat.pow 10 (-e).toNat)

def ofInt (n : Int) : Binary64 := ofDecimal (n < 0) n.natAbs 0

/-! ## Parts -/

def isNegative (x : Binary64) : Bool := signBit ≤ x.bits.toNat

def magnitude (x : Binary64) : Nat := x.bits.toNat % signBit

def isNaN (x : Binary64) : Bool := infinityBits < x.magnitude

def isInfinite (x : Binary64) : Bool := x.magnitude = infinityBits

/-- the whole part of a finite double without its sign -/
def wholePart (x : Binary64) : Nat :=
  let e := x.magnitude / leadingBit
  let f := x.magnitude % leadingBit
  let m := if e = 0 then f else f + leadingBit
  let e := max e 1
  if 1075 ≤ e then m <<< (e - 1075) else m >>> (1075 - e)

/-- the nearest number to `n` that fits 64 signed bits -/
def clamp64 (n : Int) : Int := min (max n (-9223372036854775808)) 9223372036854775807

/-- the whole part, within 64 signed bits; not-a-number gives zero -/
def toInt64 (x : Binary64) : Int :=
  if x.isNaN then 0
  else if x.isInfinite then (if x.isNegative then -9223372036854775808 else 9223372036854775807)
  else clamp64 (if x.isNegative then -(x.wholePart : Int) else x.wholePart)

/-! ## Text -/

/-- a run of digits: how many there are, the number they continue from `acc`, and the rest of the text -/
def digitRun (acc : Nat) : List Char → Nat × Nat × List Char
  | [] => (0, acc, [])
  | c :: cs =>
    match digit? c with
    | none => (0, acc, c :: cs)
    | some d =>
      let (k, n, rest) := digitRun (acc * 10 + d) cs
      (k + 1, n, rest)

/-- the exponent after `e`: an optional sign and at least one digit, up to the end of the text -/
def exponent? (cs : List Char) : Option Int :=
  let (negative, cs) := match cs with
    | '-' :: r => (true, r)
    | '+' :: r => (false, r)
    | r => (false, r)
  match digitRun 0 cs with
  | (0, _, _) => none
  | (_, n, []) => some (if negative then -(n : Int) else n)
  | _ => none

/-- what follows the digits of a number: nothing, or an exponent -/
def exponentPart? : List Char → Option Int
  | [] => some 0
  | c :: cs => if c = 'e' ∨ c = 'E' then exponent? cs else none

/-- a number without its sign: digits with at most one point, then an optional exponent -/
def decimal? (negative : Bool) (cs : List Char) : Option Binary64 :=
  let (whole, m, rest) := digitRun 0 cs
  let (places, m, rest) := match rest with
    | '.' :: r => digitRun m r
    | r => (0, m, r)
  if whole + places = 0 then none
  else (exponentPart? rest).map fun e => ofDecimal negative m (e - places)

/-- a number without its sign, or the name of one -/
def unsigned? (negative : Bool) (cs : List Char) : Option Binary64 :=
  let name := cs.map Char.toLower
  if name = "inf".toList ∨ name = "infinity".toList then some (ofSigned negative infinityBits)
  else if name = "nan".toList then some nan
  else decimal? negative cs

/-- the double a text denotes -/
def ofText? (cs : List Char) : Option Binary64 :=
  match cs with
  | '-' :: r => unsigned? true r
  | '+' :: r => unsigned? false r
  | r => unsigned? false r

end Binary64

end InteractionKit
