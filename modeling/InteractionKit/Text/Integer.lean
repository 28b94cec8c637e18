/-
Decimal integers as text.

A number is an optional sign and at least one ASCII digit, leading zeros allowed. Digits are taken from the left, so
a number that is both too large and malformed fails at whichever comes first.

- `readDigits`: digits into a number that stays within a limit.
- `readNatural` / `readInteger`: whole texts, with `+`, or with `+` and `-`.
-/
namespace InteractionKit

/-- why a text is not an integer of the wanted range -/
inductive IntegerError where
  | empty
  | invalidDigit
  | tooLarge
  | zero
deriving DecidableEq, Repr

def IntegerError.message : IntegerError → String
  | .empty => "cannot parse integer from empty string"
  | .invalidDigit => "invalid digit found in string"
  | .tooLarge => "number too large to fit in target type"
  | .zero => "number would be zero for non-zero type"

/-- the value of an ASCII digit -/
def digit? (c : Char) : Option Nat :=
  if 48 ≤ c.toNat ∧ c.toNat ≤ 57 then some (c.toNat - 48) else none

/-- continues the number `acc` with the digits of the text, never past `limit` -/
def readDigits (limit acc : Nat) : List Char → Except IntegerError Nat
  | [] => .ok acc
  | c :: cs =>
    match digit? c with
    | none => .error .invalidDigit
    | some d => if acc * 10 + d ≤ limit then readDigits limit (acc * 10 + d) cs else .error .tooLarge

/-- the number after its sign -/
def readMagnitude (limit : Nat) : List Char → Except IntegerError Nat
  | [] => .error .invalidDigit
  | c :: cs => readDigits limit 0 (c :: cs)

/-- a number up to `limit`, with an optional `+` -/
def readNatural (limit : Nat) : List Char → Except IntegerError Nat
  | [] => .error .empty
  | '+' :: cs => readMagnitude limit cs
  | cs => readMagnitude limit cs

/-- a number from `-below` to `limit`, with an optional sign -/
def readInteger (below limit : Nat) : List Char → Except IntegerError Int
  | '-' :: cs => (readMagnitude below cs).map fun n => -(n : Int)
  | cs => (readNatural limit cs).map fun n => (n : Int)

end InteractionKit
