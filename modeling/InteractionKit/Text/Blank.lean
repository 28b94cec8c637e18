/-
Blank characters and trimming.

- `isBlank`: the characters of Unicode property `White_Space`.
- `trim`: a string without the blanks at its two ends.
-/
namespace InteractionKit

/-- the inclusive ranges of code points with property `White_Space` -/
def blankRanges : List (Nat × Nat) :=
  [(0x09, 0x0D), (0x20, 0x20), (0x85, 0x85), (0xA0, 0xA0), (0x1680, 0x1680), (0x2000, 0x200A),
   (0x2028, 0x2029), (0x202F, 0x202F), (0x205F, 0x205F), (0x3000, 0x3000)]

def isBlank (c : Char) : Bool := blankRanges.any fun r => r.1 ≤ c.toNat && c.toNat ≤ r.2

/-- the text without blanks at either end -/
def trimChars (cs : List Char) : List Char := ((cs.dropWhile isBlank).reverse.dropWhile isBlank).reverse

def trim (s : String) : String := String.ofList (trimChars s.toList)

end InteractionKit
