import InteractionKit.Json.Decoder
/-
Reading values as records, and writing records.

A record is an object, its members in any order, or an array of its fields in the order they are declared. A member that
is no field is passed over. Of several faults the one met first is told: faults of members in the order of the members,
then fields that are missing, in the order of the fields. In a text, what stops the object comes before what is missing.

- `Reading`: what came of reading some fields, with the place of the first fault.
- `Reader`: how a record is read, put together field by field with `<$>` and `<*>`.
- `member`, `memberSome`, `memberList`, `memberFlag`: how a record is written.
-/
namespace InteractionKit

/-! ## Readings -/

/-- the fields read, or the first fault with the number of members that were still to come, itself included -/
inductive Reading (ε α : Type) where
  | done (a : α)
  | fault (left : Nat) (e : ε)

namespace Reading

variable {ε α β : Type}

def map (f : α → β) : Reading ε α → Reading ε β
  | done a => done (f a)
  | fault n e => fault n e

/-- two readings of one record; of two faults the one met first, or the one of the earlier field -/
def ap : Reading ε (α → β) → Reading ε α → Reading ε β
  | done f, done a => done (f a)
  | done _, fault n e => fault n e
  | fault n e, done _ => fault n e
  | fault m e, fault n e' => if m < n then fault n e' else fault m e

/-- a reading after another of the same record, which gives only its fault -/
def after (first : Reading ε Unit) (r : Reading ε α) : Reading ε α := (first.map fun _ a => a).ap r

def result : Reading ε α → Except ε α
  | done a => .ok a
  | fault _ e => .error e

/-- a value read with `left` members to come -/
def at_ (left : Nat) : Except ε α → Reading ε α
  | .ok a => done a
  | .error e => fault left e

end Reading

/-! ## Readers -/

/-- the fields of a record as they were written: by name, or by place in a record of some shape -/
inductive Row (ν : Type) where
  | named (members : List (String × ν))
  | listed (wanted : Shape) (items : List ν)

/-- what stands for a field that is not there, in an object and in an array -/
structure Gap (α : Type) where
  named : Option α
  listed : Option α

/-- how the fields of a record are read, from a first place on -/
structure Reader (α : Type) where
  /-- the names of the fields -/
  names : List String
  ofValues : Row Json → Nat → Reading ReadError α
  ofDrafts : Row Draft → Nat → Reading TextError α

namespace Reader

variable {ν ε α β : Type}

/-- a field among named members: it may stand there once -/
def readNamed (fault : ReadError → ε) (key : String) (gap : Gap α) (decode : ν → Except ε α)
    (ms : List (String × ν)) : Reading ε α :=
  match Json.find key ms with
  | none =>
    match gap.named with
    | some a => .done a
    | none => .fault 0 (fault (.missing key))
  | some (v, rest) =>
    match decode v with
    | .error e => .fault (rest.length + 1) e
    | .ok a =>
      match Json.find key rest with
      | none => .done a
      | some (_, rest) => .fault (rest.length + 1) (fault (.repeated key))

/-- a field at its place in an array -/
def readListed (fault : ReadError → ε) (wanted : Shape) (place : Nat) (gap : Gap α) (decode : ν → Except ε α)
    (xs : List ν) : Reading ε α :=
  match xs[place]? with
  | some v => Reading.at_ (xs.length - place) (decode v)
  | none =>
    match gap.listed with
    | some a => .done a
    | none => .fault 0 (fault (.wrongLength place wanted))

def readField (fault : ReadError → ε) (key : String) (gap : Gap α) (decode : ν → Except ε α) (row : Row ν)
    (place : Nat) : Reading ε α :=
  match row with
  | .named ms => readNamed fault key gap decode ms
  | .listed wanted xs => readListed fault wanted place gap decode xs

def field (key : String) (gap : Gap α) (decode : Decoder α) : Reader α where
  names := [key]
  ofValues := readField id key gap decode.ofValue
  ofDrafts := readField .unfit key gap decode.ofDraft

/-- a field that has to be there -/
def required (key : String) (decode : Decoder α) : Reader α := field key ⟨none, none⟩ decode

/-- a field with a value of its own when it is not there -/
def defaulted (key : String) (a : α) (decode : Decoder α) : Reader α := field key ⟨some a, some a⟩ decode

/-- a field that may be `null`, or left out -/
def optional (key : String) (decode : Decoder α) : Reader (Option α) :=
  field key ⟨some none, some none⟩ decode.nullable

/-- a field that may be `null`, or left out of an object, but holds its place in an array -/
def placed (key : String) (decode : Decoder α) : Reader (Option α) :=
  field key ⟨some none, none⟩ decode.nullable

/-- a record without fields -/
def pure (a : α) : Reader α := ⟨[], fun _ _ => .done a, fun _ _ => .done a⟩

/-- number of fields -/
def width (r : Reader α) : Nat := r.names.length

/-- the records that are read, under the name of their type -/
def shape (r : Reader α) (name : String) : Shape := ⟨name, r.width⟩

instance : Functor Reader where
  map f r := ⟨r.names, fun row place => (r.ofValues row place).map f, fun row place => (r.ofDrafts row place).map f⟩

instance : Seq Reader where
  seq f x :=
    ⟨f.names ++ (x ()).names,
      fun row place => (f.ofValues row place).ap ((x ()).ofValues row (place + f.width)),
      fun row place => (f.ofDrafts row place).ap ((x ()).ofDrafts row (place + f.width))⟩

/-! ### From values -/

/-- a record from the members of an object -/
def decodeMembers (r : Reader α) (ms : Members) : Except ReadError α := (r.ofValues (.named ms) 0).result

/-- a record from the items of an array -/
def decodeItems (r : Reader α) (name : String) (xs : List Json) : Except ReadError α :=
  match (r.ofValues (.listed (r.shape name) xs) 0).result with
  | .error e => .error e
  | .ok a => if xs.length ≤ r.width then .ok a else .error (.wrongLength xs.length (r.shape name))

/-! ### From a text -/

/-- what is met on the way through members that are no fields, and behind the last member -/
def between (names : List String) (passes : Draft → Bool) (stop : Option Obstacle) :
    List (String × Draft) → Reading TextError Unit
  | [] => if stop = none then .done () else .fault 0 .notJson
  | (k, d) :: ms =>
    if names.contains k || passes d then between names passes stop ms else .fault (ms.length + 1) .notJson

/-- a record from the members of an object in a text, given which drafts it can pass over -/
def draftMembers (r : Reader α) (passes : Draft → Bool) (ms : List (String × Draft)) (stop : Option Obstacle) :
    Except TextError α :=
  ((between r.names passes stop ms).after (r.ofDrafts (.named ms) 0)).result

/-- a record from the items of an array in a text, which has to end with the last field -/
def draftItems (r : Reader α) (name : String) (xs : List Draft) (stop : Option Obstacle) : Except TextError α :=
  let last : Reading TextError Unit := if stop = none ∧ xs.length ≤ r.width then .done () else .fault 0 .notJson
  (last.after (r.ofDrafts (.listed (r.shape name) xs) 0)).result

/-- a record of a named type, from an object or an array -/
def decode (r : Reader α) (name : String) : Decoder α where
  ofValue
    | .obj ms => r.decodeMembers ms
    | .arr xs => r.decodeItems name xs
    | v => .error (.wrongType v.outline ("struct " ++ name))
  ofDraft
    | .obj ms stop => r.draftMembers Draft.passes ms stop
    | .arr xs stop => r.draftItems name xs stop
    | .blocked _ => .error .notJson
    | .scalar v => .error (.unfit (.wrongType v.outline ("struct " ++ name)))

end Reader

/-! ## Writing -/

section Writing

variable {α : Type}

def member (key : String) (v : Json) : Members := [(key, v)]

/-- a member that is left out when there is no value -/
def memberSome (key : String) (encode : α → Json) : Option α → Members
  | none => []
  | some a => [(key, encode a)]

/-- a member that is left out when the list is empty -/
def memberList (key : String) (encode : α → Json) : List α → Members
  | [] => []
  | a :: as => [(key, .arr ((a :: as).map encode))]

/-- a member that is left out when it is `false` -/
def memberFlag (key : String) (b : Bool) : Members := if b then [(key, .bool true)] else []

end Writing

namespace Json

def uint8 (n : UInt8) : Json := .int n.toNat
def uint16 (n : UInt16) : Json := .int n.toNat
def uint32 (n : UInt32) : Json := .int n.toNat
def uint64 (n : UInt64) : Json := .int n.toNat
def int32 (n : Int32) : Json := .int n.toInt
def int64 (n : Int64) : Json := .int n.toInt

end Json

end InteractionKit
