import InteractionKit.Json.Record
/-
Ids: positive 64-bit numbers, each naming one resource of one kind.

The high bits of an id are the time of its making, in milliseconds since the first of January 2015. On the wire an id
is a decimal string; an integer is read as well.

- `Id.parse`: an id from text. `Id.text`: its canonical text.
- `Id.decode`, `Id.encode`: an id as a JSON value.
-/
namespace InteractionKit

/-- what an id may name -/
inductive Resource where
  | application
  | attachment
  | channel
  | command
  | emoji
  | generic
  | guild
  | interaction
  | message
  | role
  | sku
  | user
deriving DecidableEq, Repr

def Resource.name : Resource → String
  | .application => "ApplicationMarker"
  | .attachment => "AttachmentMarker"
  | .channel => "ChannelMarker"
  | .command => "CommandMarker"
  | .emoji => "EmojiMarker"
  | .generic => "GenericMarker"
  | .guild => "GuildMarker"
  | .interaction => "InteractionMarker"
  | .message => "MessageMarker"
  | .role => "RoleMarker"
  | .sku => "SkuMarker"
  | .user => "UserMarker"

/-- the name of a resource of one kind -/
structure Id (kind : Resource) where
  val : Nat
  pos : 0 < val
  lt : val < 18446744073709551616
deriving DecidableEq

abbrev ApplicationId := Id .application
abbrev ChannelId := Id .channel
abbrev GenericId := Id .generic
abbrev GuildId := Id .guild
abbrev RoleId := Id .role
abbrev UserId := Id .user

namespace Id

variable {k l : Resource}

theorem ext_val {a b : Id k} (h : a.val = b.val) : a = b := by
  cases a; cases b; simp_all

def ofNat? (n : Nat) : Option (Id k) := if h : 0 < n ∧ n < 18446744073709551616 then some ⟨n, h.1, h.2⟩ else none

/-- the same number as the name of another resource, as a guild and its everyone role share one -/
def cast (a : Id k) : Id l := ⟨a.val, a.pos, a.lt⟩

def compare (a b : Id k) : Ordering := Ord.compare a.val b.val

/-! ## Text -/

def text (a : Id k) : String := toString a.val

/-- the text that shows the kind of an id as well -/
def describe (a : Id k) : String := "Id<" ++ k.name ++ ">(" ++ a.text ++ ")"

def parse (s : String) : Except IntegerError (Id k) :=
  match readNatural 18446744073709551615 s.toList with
  | .error e => .error e
  | .ok n =>
    match ofNat? n with
    | some a => .ok a
    | none => .error .zero

/-! ## Time -/

/-- milliseconds from the Unix epoch to the epoch of ids -/
def epoch : UInt64 := 1420070400000

/-- Unix milliseconds at which the id was made -/
def timestamp (a : Id k) : UInt64 := UInt64.ofNat a.val >>> 22 + epoch

/-! ## JSON -/

def encode (a : Id k) : Json := .str a.text

/-- what is wanted where an id is read -/
def wanted : String := "a discord snowflake"

def decode : Decoder (Id k) := .scalar wanted fun
  | .int n =>
    match ofNat? n.toNat with
    | some a => .ok a
    | none => .error (.wrongValue (.integer n) wanted)
  | .str s =>
    match parse s with
    | .ok a => .ok a
    | .error _ => .error (.wrongValue (.text s) wanted)
  | v => .error (.wrongType v.outline wanted)

end Id

end InteractionKit
