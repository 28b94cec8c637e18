import InteractionKit.Json.Record
/-
What arranges other components, over whatever they are, and what stands between them.

A layout is read with a decoder for its children as a whole, so that a child that fails fails the layout.
-/
namespace InteractionKit

structure ActionRow (γ : Type) where
  id : Option Int32
  components : List γ

/-- text with something beside it -/
structure TextSection (γ : Type) where
  id : Option Int32
  components : List γ
  accessory : γ

/-- a box around components -/
structure Container (γ : Type) where
  id : Option Int32
  accentColor : Option UInt32
  spoiler : Option Bool
  components : List γ

/-- a name and a description for a component of a modal -/
structure Label (γ : Type) where
  id : Option Int32
  label : String
  description : Option String
  component : γ

inductive Spacing where
  | small
  | large
deriving DecidableEq, Repr

structure Separator where
  id : Option Int32
  divider : Option Bool
  spacing : Option Spacing
deriving DecidableEq

structure TextDisplay where
  id : Option Int32
  content : String
deriving DecidableEq

variable {γ : Type}

namespace ActionRow

def new (components : List γ) : ActionRow γ := ⟨none, components⟩

def reader (components : Decoder (List γ)) : Reader (ActionRow γ) :=
  mk <$> .optional "id" Decoder.int32 <*> .defaulted "components" [] components

/-- the members of a row over its written children -/
def members (row : ActionRow γ) (children : List Json) : Members :=
  memberSome "id" Json.int32 row.id ++ member "components" (.arr children)

end ActionRow

namespace TextSection

def reader (components : Decoder (List γ)) (accessory : Decoder γ) : Reader (TextSection γ) :=
  mk <$> .optional "id" Decoder.int32
    <*> .required "components" components
    <*> .required "accessory" accessory

/-- the members of a section over its written children -/
def members (s : TextSection γ) (children : List Json) (accessory : Json) : Members :=
  memberSome "id" Json.int32 s.id ++ member "components" (.arr children) ++ member "accessory" accessory

end TextSection

namespace Container

def new (components : List γ) : Container γ := ⟨none, none, none, components⟩

def reader (components : Decoder (List γ)) : Reader (Container γ) :=
  mk <$> .optional "id" Decoder.int32
    <*> .optional "accent_color" Decoder.uint32
    <*> .optional "spoiler" Decoder.flag
    <*> .required "components" components

/-- the members of a container over its written children -/
def members (c : Container γ) (children : List Json) : Members :=
  memberSome "id" Json.int32 c.id ++ memberSome "accent_color" Json.uint32 c.accentColor
    ++ memberSome "spoiler" .bool c.spoiler ++ member "components" (.arr children)

end Container

namespace Label

def new (label : String) (component : γ) : Label γ := ⟨none, label, none, component⟩

def reader (component : Decoder γ) : Reader (Label γ) :=
  mk <$> .optional "id" Decoder.int32
    <*> .required "label" Decoder.text
    <*> .optional "description" Decoder.text
    <*> .required "component" component

/-- the members of a label over its written child -/
def members (l : Label γ) (child : Json) : Members :=
  memberSome "id" Json.int32 l.id ++ member "label" (.str l.label) ++ memberSome "description" .str l.description
    ++ member "component" child

end Label

namespace Spacing

def code : Spacing → Nat
  | .small => 1
  | .large => 2

def ofCode? : Nat → Option Spacing
  | 1 => some .small
  | 2 => some .large
  | _ => none

def decode : Decoder Spacing := Decoder.code ofCode?

def encode (s : Spacing) : Json := .int s.code

end Spacing

namespace Separator

def reader : Reader Separator :=
  mk <$> .optional "id" Decoder.int32
    <*> .optional "divider" Decoder.flag
    <*> .optional "spacing" Spacing.decode

def members (s : Separator) : Members :=
  memberSome "id" Json.int32 s.id ++ memberSome "divider" .bool s.divider
    ++ memberSome "spacing" Spacing.encode s.spacing

end Separator

namespace TextDisplay

def new (content : String) : TextDisplay := ⟨none, content⟩

def reader : Reader TextDisplay :=
  mk <$> .optional "id" Decoder.int32 <*> .required "content" Decoder.text

def members (t : TextDisplay) : Members :=
  memberSome "id" Json.int32 t.id ++ member "content" (.str t.content)

end TextDisplay

end InteractionKit
