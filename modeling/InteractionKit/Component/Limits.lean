import InteractionKit.Component.Basic
/-
How many children a component may hold.

- `Component.validate`: the first component of a tree with too many, a component being looked at before its children.
-/
namespace InteractionKit

/-- a component with more children than it may hold -/
structure TooMany where
  kind : ComponentKind
  count : Nat
  limit : Nat
deriving DecidableEq, Repr

def TooMany.message (e : TooMany) : String :=
  e.kind.name ++ " holds " ++ toString e.count ++ " children but at most " ++ toString e.limit ++ " are allowed"

namespace Component

def maxRow : Nat := 5
def maxSection : Nat := 3
def maxGallery : Nat := 10

def checkCount (kind : ComponentKind) (count limit : Nat) : Except TooMany Unit :=
  if limit < count then .error ⟨kind, count, limit⟩ else .ok ()

mutual
/-- the limits of a component and of everything in it -/
def validate : Component → Except TooMany Unit
  | .actionRow ⟨_, xs⟩ => do
    checkCount .actionRow xs.length maxRow
    validateAll xs
  | .textSection ⟨_, xs, x⟩ => do
    checkCount .section xs.length maxSection
    validateAll xs
    validate x
  | .mediaGallery g => checkCount .mediaGallery g.items.length maxGallery
  | .container ⟨_, _, _, xs⟩ => validateAll xs
  | _ => .ok ()
def validateAll : List Component → Except TooMany Unit
  | [] => .ok ()
  | x :: xs => do
    validate x
    validateAll xs
end

end Component

end InteractionKit
