import InteractionKit.Binary64
/-
JSON values.

An object keeps its members as they were written: in order, and with a key twice if it was written twice. Integers
are exact; a number that is no integer is a double. `Json.canonical` is the stored form of a value: members in the
order of their keys, the last one written for each key. `Json.outline` is what a refusal tells of the value it refuses.
-/
namespace InteractionKit

inductive Json where
  | null
  | bool (b : Bool)
  | int (n : Int)
  | float (x : Binary64)
  | str (s : String)
  | arr (items : List Json)
  | obj (members : List (String × Json))
deriving Inhabited

abbrev Members := List (String × Json)

/-- a value as it is told of in a refusal: a scalar as it is, of a container no more than its sort -/
inductive Outline where
  | null
  | flag (b : Bool)
  | integer (n : Int)
  | fraction (x : Binary64)
  | text (s : String)
  | list
  | object
deriving DecidableEq, Repr

namespace Json

def outline : Json → Outline
  | null => .null
  | bool b => .flag b
  | int n => .integer n
  | float x => .fraction x
  | str s => .text s
  | arr _ => .list
  | obj _ => .object

/-! ## Equality -/

mutual
/-- whether two values are equal -/
def same : Json → Json → Bool
  | null, null => true
  | bool a, bool b => a == b
  | int m, int n => m == n
  | float x, float y => x == y
  | str s, str t => s == t
  | arr xs, arr ys => sameItems xs ys
  | obj ms, obj ns => sameMembers ms ns
  | _, _ => false
def sameItems : List Json → List Json → Bool
  | [], [] => true
  | x :: xs, y :: ys => same x y && sameItems xs ys
  | _, _ => false
def sameMembers : Members → Members → Bool
  | [], [] => true
  | (k, x) :: xs, (l, y) :: ys => k == l && same x y && sameMembers xs ys
  | _, _ => false
end

mutual
theorem same_iff : (a b : Json) → (same a b = true ↔ a = b)
  | null, b => by cases b <;> simp [same]
  | bool _, b => by cases b <;> simp [same]
  | int _, b => by cases b <;> simp [same]
  | float _, b => by cases b <;> simp [same]
  | str _, b => by cases b <;> simp [same]
  | arr xs, b => by
    cases b with
    | arr ys => simp [same, sameItems_iff xs ys]
    | _ => simp [same]
  | obj ms, b => by
    cases b with
    | obj ns => simp [same, sameMembers_iff ms ns]
    | _ => simp [same]
theorem sameItems_iff : (xs ys : List Json) → (sameItems xs ys = true ↔ xs = ys)
  | [], ys => by cases ys <;> simp [sameItems]
  | x :: xs, ys => by
    cases ys with
    | nil => simp [sameItems]
    | cons y ys => simp [sameItems, same_iff x y, sameItems_iff xs ys]
theorem sameMembers_iff : (xs ys : Members) → (sameMembers xs ys = true ↔ xs = ys)
  | [], ys => by cases ys <;> simp [sameMembers]
  | (k, x) :: xs, ys => by
    cases ys with
    | nil => simp [sameMembers]
    | cons y ys =>
      obtain ⟨l, y⟩ := y
      simp [sameMembers, same_iff x y, sameMembers_iff xs ys]
end

instance : DecidableEq Json := fun a b => decidable_of_iff _ (same_iff a b)

/-! ## Stored form -/

/-- puts a member in its place among sorted members, over the one with the same key -/
def insertMember (k : String) (v : Json) : Members → Members
  | [] => [(k, v)]
  | (l, w) :: r =>
    if k < l then (k, v) :: (l, w) :: r
    else if k = l then (k, v) :: r
    else (l, w) :: insertMember k v r

mutual
/-- members in the order of their keys at every depth, the last one written for each key -/
def canonical : Json → Json
  | arr xs => arr (canonicalItems xs)
  | obj ms => obj (canonicalMembers [] ms)
  | v => v
def canonicalItems : List Json → List Json
  | [] => []
  | x :: xs => canonical x :: canonicalItems xs
/-- puts the members one by one among the sorted ones -/
def canonicalMembers (sorted : Members) : Members → Members
  | [] => sorted
  | (k, v) :: r => canonicalMembers (insertMember k (canonical v) sorted) r
end

/-! ## Access -/

/-- the first member with a key, and the members after it -/
def find {ν : Type} (key : String) : List (String × ν) → Option (ν × List (String × ν))
  | [] => none
  | (k, v) :: r => if k = key then some (v, r) else find key r

/-- the member of an object with a key -/
def get? (key : String) : Json → Option Json
  | obj ms => (find key ms).map Prod.fst
  | _ => none

mutual
/-- whether a double occurs anywhere in the value -/
def hasFloat : Json → Bool
  | float _ => true
  | arr xs => itemsHaveFloat xs
  | obj ms => membersHaveFloat ms
  | _ => false
def itemsHaveFloat : List Json → Bool
  | [] => false
  | x :: xs => hasFloat x || itemsHaveFloat xs
def membersHaveFloat : Members → Bool
  | [] => false
  | (_, v) :: r => hasFloat v || membersHaveFloat r
end

end Json

end InteractionKit
