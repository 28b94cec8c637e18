import InteractionKit.Component.Kind
import InteractionKit.Json.Basic
import InteractionKit.Text.Integer
import InteractionKit.Text.Quoted
/-
What can be wrong with a payload.

A `ReadError` is the first thing found wrong while a value is read as some type: what stood there and what was wanted in
its place. A `DecodeError` is what a component or an interaction was refused for: its kind could not be told, is of the
other family, or its fields did not fit. The two nest, because a record may hold components and a component is a record.

- `Shape`: a record that is wanted.
- `ReadError`, `DecodeError`.
- `ReadError.message`, `DecodeError.message`: the text of a fault; of those of reading itself, which sort of fault it is.
-/
namespace InteractionKit

/-- what a record is called where it is wanted, and how many fields it has -/
structure Shape where
  name : String
  width : Nat
deriving DecidableEq, Repr

mutual
inductive ReadError where
  /-- another sort of JSON value was wanted -/
  | wrongType (found : Outline) (wanted : String)
  /-- the right sort of value, but not one of those allowed -/
  | wrongValue (found : Outline) (wanted : String)
  /-- a number that stands for none of the known values -/
  | unknownCode (code : Nat) (known : List Nat)
  /-- a record written as an array with too few items, up to the place of the first that is missing, or with too many -/
  | wrongLength (length : Nat) (wanted : Shape)
  /-- a name that is none of the known ones -/
  | unknownName (name : String) (known : List String)
  /-- none of several possible forms fits -/
  | noForm (choice : String)
  | missing (field : String)
  | repeated (field : String)
  | notPermissions (text : String)
  | notInteger (cause : IntegerError)
  | nested (cause : DecodeError)
deriving DecidableEq, Repr

inductive DecodeError where
  /-- the fields do not fit the chosen shape -/
  | shape (cause : ReadError)
  /-- there is no integer `type` -/
  | untyped (family : Family)
  | unknownKind (family : Family) (code : Nat)
  | foreignKind (family : Family) (kind : ComponentKind)
deriving DecidableEq, Repr
end

def DecodeError.message : DecodeError → String
  | .shape _ => "payload does not match the expected shape"
  | .untyped family => family.name ++ " component is missing an integer `type` field"
  | .unknownKind family code => "unknown " ++ family.name ++ " component type " ++ toString code
  | .foreignKind family kind => "component type " ++ kind.name ++ " can't be used in a " ++ family.name

def ReadError.message : ReadError → String
  | .wrongType _ _ => "invalid type"
  | .wrongValue _ _ | .unknownCode _ _ => "invalid value"
  | .wrongLength _ _ => "invalid length"
  | .unknownName _ _ => "unknown variant"
  | .noForm _ => "no variant matched"
  | .missing field => "missing field `" ++ field ++ "`"
  | .repeated field => "duplicate field `" ++ field ++ "`"
  | .notPermissions text => "invalid permission integer: " ++ quoted text
  | .notInteger cause => cause.message
  | .nested cause => cause.message

end InteractionKit
