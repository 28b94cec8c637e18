import InteractionKit.Json.Draft
/-
JSON text into values.

A number is an integer when it is written without point and exponent, is not `-0` and lies within 64 bits; any other
number is the nearest double. A number past every double, a lone surrogate, and nesting beyond the given depth have no
value.

- `Draft.ofText`: a text as far as it holds, members kept as written.
- `Json.parse`: the value of a whole document.
-/
namespace InteractionKit

namespace Json

/-! ## Blanks -/

def skipBlank : List Char → List Char
  | [] => []
  | c :: cs => if c = ' ' ∨ c = '\n' ∨ c = '\t' ∨ c = '\r' then skipBlank cs else c :: cs

/-! ## Strings -/

def hexValue? (c : Char) : Option Nat :=
  if '0' ≤ c ∧ c ≤ '9' then some (c.toNat - 48)
  else if 'a' ≤ c ∧ c ≤ 'f' then some (c.toNat - 87)
  else if 'A' ≤ c ∧ c ≤ 'F' then some (c.toNat - 55)
  else none

/-- four hexadecimal digits as a number -/
def hexUnit? (a b c d : Char) : Option Nat := do
  return (((← hexValue? a) * 16 + (← hexValue? b)) * 16 + (← hexValue? c)) * 16 + (← hexValue? d)

/-- the character of an escape of one letter -/
def shortEscape? : Char → Option Char
  | '"' => some '"'
  | '\\' => some '\\'
  | '/' => some '/'
  | 'b' => some '\x08'
  | 'f' => some '\x0c'
  | 'n' => some '\n'
  | 'r' => some '\r'
  | 't' => some '\t'
  | _ => none

/-- the character that two surrogates stand for -/
def joinSurrogates? (high low : Nat) : Option Char :=
  if 0xD800 ≤ high ∧ high ≤ 0xDBFF ∧ 0xDC00 ≤ low ∧ low ≤ 0xDFFF then
    some (Char.ofNat (0x10000 + (high - 0xD800) * 0x400 + (low - 0xDC00)))
  else none

/-- what is read of a string, the last character first -/
inductive Spelling where
  | sound (read : List Char)
  /-- the first half of a surrogate pair is read, and the second has to follow -/
  | half (read : List Char) (high : Nat)
  /-- a surrogate stands alone -/
  | valueless

namespace Spelling

def push (c : Char) : Spelling → Spelling
  | sound read => sound (c :: read)
  | half _ _ => valueless
  | valueless => valueless

/-- the code point or surrogate of an escape -/
def pushUnit (n : Nat) : Spelling → Spelling
  | sound read =>
    if 0xD800 ≤ n ∧ n ≤ 0xDBFF then half read n
    else if 0xDC00 ≤ n ∧ n ≤ 0xDFFF then valueless
    else sound (Char.ofNat n :: read)
  | half read high =>
    match joinSurrogates? high n with
    | some c => sound (c :: read)
    | none => valueless
  | valueless => valueless

def value? : Spelling → Option String
  | sound read => some (String.ofList read.reverse)
  | half _ _ => none
  | valueless => none

end Spelling

/-- the value of a string, if it has one, read up to its closing quote, and the text after it -/
def stringBody (read : Spelling) : List Char → Option (Option String × List Char)
  | '"' :: cs => some (read.value?, cs)
  | '\\' :: 'u' :: a :: b :: c :: d :: cs =>
    match hexUnit? a b c d with
    | some n => stringBody (read.pushUnit n) cs
    | none => none
  | '\\' :: e :: cs =>
    match shortEscape? e with
    | some x => stringBody (read.push x) cs
    | none => none
  | c :: cs => if c.toNat < 0x20 ∨ c = '\\' then none else stringBody (read.push c) cs
  | [] => none

/-- a string after its opening quote -/
def string? (cs : List Char) : Option (Option String × List Char) := stringBody (.sound []) cs

/-! ## Numbers -/

/-- an integer within 64 bits, signed or unsigned, or else the nearest double -/
def wholeNumber (negative : Bool) (m : Nat) : Json :=
  if negative then
    if m = 0 ∨ 9223372036854775808 < m then float (Binary64.ofDecimal true m 0) else int (-(m : Int))
  else if 18446744073709551616 ≤ m then float (Binary64.ofDecimal false m 0)
  else int m

/-- a number, which has no value past every double -/
def bounded : Json → Draft
  | float x => if x.isInfinite then .blocked .valueless else .scalar (.float x)
  | v => .scalar v

/-- the digits after a point, at least one, continuing the number `m` -/
def fraction? (m : Nat) : List Char → Option (Nat × Nat × List Char)
  | '.' :: cs =>
    match Binary64.digitRun m cs with
    | (0, _, _) => none
    | (k, n, r) => some (k, n, r)
  | cs => some (0, m, cs)

/-- an exponent, if there is one -/
def exponent? : List Char → Option (Option Int × List Char)
  | c :: cs =>
    if c = 'e' ∨ c = 'E' then
      let (negative, cs) := match cs with
        | '-' :: r => (true, r)
        | '+' :: r => (false, r)
        | r => (false, r)
      match Binary64.digitRun 0 cs with
      | (0, _, _) => none
      | (_, n, r) => some (some (if negative then -(n : Int) else n), r)
    else some (none, c :: cs)
  | [] => some (none, [])

/-- a number after its sign -/
def number? (negative : Bool) (cs : List Char) : Option (Draft × List Char) :=
  let (digits, m, rest) := Binary64.digitRun 0 cs
  if digits = 0 then none
  else if 1 < digits ∧ cs.head? = some '0' then none
  else do
    let (places, m', rest) ← fraction? m rest
    let (e, rest) ← exponent? rest
    let v := match places, e with
      | 0, none => wholeNumber negative m'
      | _, _ => float (Binary64.ofDecimal negative m' (e.getD 0 - places))
    return (bounded v, rest)

/-! ## Values -/

/-- a value that begins with its first character: a word, a string or a number -/
def scalar? : List Char → Option (Draft × List Char)
  | 'n' :: 'u' :: 'l' :: 'l' :: cs => some (.scalar null, cs)
  | 't' :: 'r' :: 'u' :: 'e' :: cs => some (.scalar (bool true), cs)
  | 'f' :: 'a' :: 'l' :: 's' :: 'e' :: cs => some (.scalar (bool false), cs)
  | '"' :: cs =>
    match string? cs with
    | some (some s, r) => some (.scalar (str s), r)
    | some (none, r) => some (.blocked .valueless, r)
    | none => none
  | '-' :: cs => number? true cs
  | cs => number? false cs

end Json

/-! ## Containers -/

namespace Draft

/-- the parts of a container, what stops them, and the text after the container, none if it does not end -/
structure Parts (β : Type) where
  parts : List β
  stop : Option Obstacle
  rest : Option (List Char)

namespace Parts

variable {β : Type}

/-- what a reader meets who can only pass over the rest of the container -/
def obstacle (p : Parts β) : Obstacle := if p.rest.isSome then .valueless else .broken

/-- the parts within the nesting that is left -/
def within (depth : Nat) (p : Parts β) : Parts β := if depth = 0 then ⟨[], some p.obstacle, p.rest⟩ else p

/-- members up to the first whose key has no value -/
def keyed (p : Parts (Option String × Draft)) : Parts (String × Draft) :=
  let named := p.parts.takeWhile fun m => m.1.isSome
  ⟨named.filterMap fun m => m.1.map fun k => (k, m.2),
    if named.length = p.parts.length then p.stop else some p.obstacle, p.rest⟩

end Parts

/-- what stands where a key should be but no string does -/
def keyless : List Char → Obstacle
  | '[' :: _ => .unkeyed .list
  | '{' :: _ => .unkeyed .object
  | cs =>
    match Json.scalar? cs with
    | some (.scalar v, _) => .unkeyed v.outline
    | _ => .broken

mutual
/-- one value, its nesting within `depth`, and the text after it if it ends; every step spends fuel -/
def read : Nat → Nat → List Char → Draft × Option (List Char)
  | 0, _, _ => (.blocked .broken, none)
  | fuel + 1, depth, cs =>
    match Json.skipBlank cs with
    | '[' :: cs =>
      let p : Parts Draft := match Json.skipBlank cs with
        | ']' :: cs => ⟨[], none, some cs⟩
        | cs => readItems fuel (depth - 1) [] cs
      let p := p.within depth
      (.arr p.parts p.stop, p.rest)
    | '{' :: cs =>
      let p : Parts (Option String × Draft) := match Json.skipBlank cs with
        | '}' :: cs => ⟨[], none, some cs⟩
        | cs => readMembers fuel (depth - 1) [] cs
      let p := p.keyed.within depth
      (.obj p.parts p.stop, p.rest)
    | cs =>
      match Json.scalar? cs with
      | some (d, rest) => (d, some rest)
      | none => (.blocked .broken, none)
/-- items up to the closing bracket, after those already read, last first -/
def readItems : Nat → Nat → List Draft → List Char → Parts Draft
  | 0, _, done, _ => ⟨done.reverse, some .broken, none⟩
  | fuel + 1, depth, done, cs =>
    match read fuel depth cs with
    | (d, none) => ⟨(d :: done).reverse, some .broken, none⟩
    | (d, some cs) =>
      match Json.skipBlank cs with
      | ',' :: cs => readItems fuel depth (d :: done) cs
      | ']' :: cs => ⟨(d :: done).reverse, none, some cs⟩
      | _ => ⟨(d :: done).reverse, some .broken, none⟩
/-- members up to the closing brace, after those already read, last first; a key may have no value -/
def readMembers : Nat → Nat → List (Option String × Draft) → List Char → Parts (Option String × Draft)
  | 0, _, done, _ => ⟨done.reverse, some .broken, none⟩
  | fuel + 1, depth, done, cs =>
    match Json.skipBlank cs with
    | '"' :: cs =>
      match Json.string? cs with
      | none => ⟨done.reverse, some .broken, none⟩
      | some (k, cs) =>
        match Json.skipBlank cs with
        | ':' :: cs =>
          match read fuel depth cs with
          | (d, none) => ⟨((k, d) :: done).reverse, some .broken, none⟩
          | (d, some cs) =>
            match Json.skipBlank cs with
            | ',' :: cs => readMembers fuel depth ((k, d) :: done) cs
            | '}' :: cs => ⟨((k, d) :: done).reverse, none, some cs⟩
            | _ => ⟨((k, d) :: done).reverse, some .broken, none⟩
        | _ => ⟨((k, .blocked .broken) :: done).reverse, some .broken, none⟩
    | cs => ⟨done.reverse, some (keyless cs), none⟩
end

/-! ## Documents -/

/-- the draft of a text, nested within `depth`, and whether nothing follows it -/
def ofText (depth : Nat) (text : String) : Draft × Bool :=
  let cs := text.toList
  match read (2 * cs.length + 2) depth cs with
  | (d, some rest) => (d, (Json.skipBlank rest).isEmpty)
  | (d, none) => (d, false)

end Draft

namespace Json

/-- nesting that a document may have -/
def maxDepth : Nat := 127

/-- the value of a whole document, members as written, or `none` if the text is not JSON -/
def parseWithin (depth : Nat) (text : String) : Option Json :=
  match Draft.ofText depth text with
  | (d, true) => d.held?
  | (_, false) => none

def parse (text : String) : Option Json := parseWithin maxDepth text

end Json

end InteractionKit
