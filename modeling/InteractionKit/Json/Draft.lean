import InteractionKit.Json.Basic
/-
A JSON text as far as it holds.

Whoever reads a text as some type meets what is wrong in the order of the text, be it a value that does not fit or text
that is no JSON. So a text is laid out as a draft first: the tree of its values, ending where the text leaves the
grammar. Some sound text has no value: a string with half of a surrogate pair, a number past every double, nesting past
the limit. It can be passed over, but not read.

What cannot be passed over also stops every container around it.

- `Draft`, `Obstacle`.
- `Draft.passes`: whether the text goes on behind a draft that nobody looks into.
- `Draft.held?`: the value of a draft that holds throughout; such a draft can be passed over (`passes_of_held?`).
-/
namespace InteractionKit

/-- why a text cannot be read further -/
inductive Obstacle where
  /-- sound text that has no value -/
  | valueless
  /-- text outside the grammar -/
  | broken
  /-- a value, but no string, where the key of a member should be -/
  | unkeyed (found : Outline)
deriving DecidableEq

inductive Draft where
  /-- a word, a number or a string -/
  | scalar (v : Json)
  | blocked (o : Obstacle)
  /-- items, and what stops them before the closing bracket -/
  | arr (items : List Draft) (stop : Option Obstacle)
  /-- members, and what stops them before the closing brace -/
  | obj (members : List (String × Draft)) (stop : Option Obstacle)
deriving Inhabited

namespace Obstacle

/-- whether the text goes on behind what stands there -/
def passes (stop : Option Obstacle) : Bool := stop = none || stop = some .valueless

end Obstacle

namespace Draft

/-- whether the text goes on behind the draft -/
def passes : Draft → Bool
  | scalar _ => true
  | blocked o => Obstacle.passes (some o)
  | arr _ stop => Obstacle.passes stop
  | obj _ stop => Obstacle.passes stop

mutual
/-- the value of a draft in which nothing is in the way -/
def held? : Draft → Option Json
  | scalar v => some v
  | arr xs none => (heldItems? xs).map .arr
  | obj ms none => (heldMembers? ms).map .obj
  | _ => none
def heldItems? : List Draft → Option (List Json)
  | [] => some []
  | x :: xs =>
    match held? x with
    | some v => (heldItems? xs).map (v :: ·)
    | none => none
def heldMembers? : List (String × Draft) → Option Members
  | [] => some []
  | (k, x) :: ms =>
    match held? x with
    | some v => (heldMembers? ms).map ((k, v) :: ·)
    | none => none
end

/-- What has a value can be passed over. -/
theorem passes_of_held? {d : Draft} {v : Json} (h : d.held? = some v) : d.passes = true := by
  cases d with
  | scalar w => rfl
  | blocked o => simp [held?] at h
  | arr xs stop => cases stop <;> simp_all [held?, passes, Obstacle.passes]
  | obj ms stop => cases stop <;> simp_all [held?, passes, Obstacle.passes]

end Draft

end InteractionKit
