import InteractionKit.Error
import InteractionKit.Json.Document
/-
Reading values as some type, from a value or straight from a text.

The two differ in what they can tell. A value is sound, so only what does not fit can be wrong with it. A text may also
leave the grammar, and of all faults the first in the order of the text is told: what is wrong behind it is never seen,
and what a reader passes over need not have a value.

- `Decoder`: how a type is read from both; a decoder is applied to a value like a function.
- `Decoder.scalar`, `Decoder.whole`, `Decoder.list`: a value on the spot, a value taken up whole first, item by item.
- `Decoder.ofText`: a whole text.
-/
namespace InteractionKit

inductive TextError where
  /-- the text is not JSON, as far as it was read -/
  | notJson
  /-- a value in it does not fit -/
  | unfit (cause : ReadError)
deriving DecidableEq, Repr

/-- how a type is read, from a value and from a text laid out as a draft -/
structure Decoder (α : Type) where
  ofValue : Json → Except ReadError α
  ofDraft : Draft → Except TextError α

namespace Decoder

variable {α β : Type}

instance : CoeFun (Decoder α) fun _ => Json → Except ReadError α := ⟨ofValue⟩

instance : Functor Decoder where
  map f d := ⟨fun v => (d.ofValue v).map f, fun t => (d.ofDraft t).map f⟩

/-- a type without containers: of a container the opening bracket is enough to refuse it -/
def scalar (wanted : String) (f : Json → Except ReadError α) : Decoder α where
  ofValue := f
  ofDraft
    | .scalar v => (f v).mapError .unfit
    | .blocked _ => .error .notJson
    | .arr _ _ => .error (.unfit (.wrongType .list wanted))
    | .obj _ _ => .error (.unfit (.wrongType .object wanted))

/-- a value that is taken up whole before it is looked at -/
def whole (f : Json → Except ReadError α) : Decoder α where
  ofValue := f
  ofDraft d :=
    match d.held? with
    | some v => (f v).mapError .unfit
    | none => .error .notJson

@[simp] theorem ofValue_map (f : α → β) (d : Decoder α) (v : Json) : (f <$> d).ofValue v = (d.ofValue v).map f := rfl

@[simp] theorem ofValue_scalar (wanted : String) (f : Json → Except ReadError α) (v : Json) :
    (scalar wanted f).ofValue v = f v := rfl

/-- in a text the same is read -/
theorem ofDraft_scalar_eq_ok_iff {wanted : String} {f : Json → Except ReadError α} {d : Draft} {a : α} :
    (scalar wanted f).ofDraft d = .ok a ↔ ∃ v, d = .scalar v ∧ f v = .ok a := by
  cases d with
  | scalar v =>
    cases h : f v with
    | error e =>
      have hread : (scalar wanted f).ofDraft (.scalar v) = .error (.unfit e) :=
        congrArg (Except.mapError TextError.unfit) h
      simp [hread, h]
    | ok b =>
      have hread : (scalar wanted f).ofDraft (.scalar v) = .ok b := congrArg (Except.mapError TextError.unfit) h
      simp [hread, h]
  | blocked o | arr xs stop | obj ms stop => simp [scalar]

@[simp] theorem ofValue_whole (f : Json → Except ReadError α) (v : Json) : (whole f).ofValue v = f v := rfl

/-- a whole text -/
def ofText (decode : Decoder α) (text : String) : Except TextError α :=
  match Draft.ofText Json.maxDepth text with
  | (d, ended) =>
    match decode.ofDraft d with
    | .error e => .error e
    | .ok a => if ended then .ok a else .error .notJson

/-! ## Scalars -/

def text : Decoder String := scalar "a string" fun
  | .str s => .ok s
  | v => .error (.wrongType v.outline "a string")

def flag : Decoder Bool := scalar "a boolean" fun
  | .bool b => .ok b
  | v => .error (.wrongType v.outline "a boolean")

/-- an integer from `low` to `high` -/
def integer (wanted : String) (low high : Int) : Decoder Int := scalar wanted fun
  | .int n => if low ≤ n ∧ n ≤ high then .ok n else .error (.wrongValue (.integer n) wanted)
  | v => .error (.wrongType v.outline wanted)

def uint8 : Decoder UInt8 := (fun n => UInt8.ofNat n.toNat) <$> integer "u8" 0 255
def uint16 : Decoder UInt16 := (fun n => UInt16.ofNat n.toNat) <$> integer "u16" 0 65535
def uint32 : Decoder UInt32 := (fun n => UInt32.ofNat n.toNat) <$> integer "u32" 0 4294967295
def uint64 : Decoder UInt64 := (fun n => UInt64.ofNat n.toNat) <$> integer "u64" 0 18446744073709551615
def int32 : Decoder Int32 := Int32.ofInt <$> integer "i32" (-2147483648) 2147483647
def int64 : Decoder Int64 := Int64.ofInt <$> integer "i64" (-9223372036854775808) 9223372036854775807

/-- the numbers of one byte that stand for a value -/
def codes (ofCode? : Nat → Option α) : List Nat := (List.range 256).filter fun n => (ofCode? n).isSome

/-- one of the values that have a number of one byte -/
def code (ofCode? : Nat → Option α) : Decoder α := scalar "u8" fun
  | .int n =>
    if 0 ≤ n ∧ n ≤ 255 then
      match ofCode? n.toNat with
      | some a => .ok a
      | none => .error (.unknownCode n.toNat (codes ofCode?))
    else .error (.wrongValue (.integer n) "u8")
  | v => .error (.wrongType v.outline "u8")

/-! ## Values around values -/

/-- a value that stands for itself, in its stored form -/
def raw : Decoder Json := whole fun v => .ok v.canonical

/-- a value that may be `null` -/
def nullable (decode : Decoder α) : Decoder (Option α) where
  ofValue
    | .null => .ok none
    | v => (decode.ofValue v).map some
  ofDraft
    | .scalar .null => .ok none
    | d => (decode.ofDraft d).map some

/-- every item of a list in turn, up to the first that fails -/
def items {ν ε : Type} (decode : ν → Except ε α) : List ν → Except ε (List α)
  | [] => .ok []
  | v :: vs =>
    match decode v with
    | .error e => .error e
    | .ok a => (items decode vs).map (a :: ·)

/-- what was read of a container, unless something stops it before its end -/
def upTo (stop : Option Obstacle) (result : Except TextError α) : Except TextError α :=
  match result, stop with
  | .error e, _ => .error e
  | .ok _, some _ => .error .notJson
  | .ok a, none => .ok a

def list (decode : Decoder α) : Decoder (List α) where
  ofValue
    | .arr vs => items decode.ofValue vs
    | v => .error (.wrongType v.outline "a sequence")
  ofDraft
    | .arr ds stop => upTo stop (items decode.ofDraft ds)
    | .blocked _ => .error .notJson
    | .scalar v => .error (.unfit (.wrongType v.outline "a sequence"))
    | .obj _ _ => .error (.unfit (.wrongType .object "a sequence"))

end Decoder

end InteractionKit
