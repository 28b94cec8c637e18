/-
Hexadecimal text, in lower case.
-/
namespace InteractionKit

/-- the last `width` hexadecimal digits of a number -/
def hexDigits : Nat → Nat → List Char
  | 0, _ => []
  | width + 1, n => hexDigits width (n / 16) ++ [Nat.digitChar (n % 16)]

/-- a number in hexadecimal, without leading zeros -/
def hex (n : Nat) : String := String.ofList (Nat.toDigits 16 n)

end InteractionKit
