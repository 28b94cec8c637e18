import InteractionKit.Id
/-
Buttons.

A button without a style is written as a primary one, so it is read back with the style filled in.
-/
namespace InteractionKit

inductive ButtonStyle where
  | primary
  | secondary
  | success
  | danger
  | link
  | premium
deriving DecidableEq, Repr

/-- a pointer to an emoji, by id or by its text -/
structure EmojiRef where
  id : Option (Id .emoji)
  name : Option String
  animated : Bool
deriving DecidableEq

structure Button where
  id : Option Int32
  customId : Option String
  disabled : Bool
  emoji : Option EmojiRef
  label : Option String
  style : Option ButtonStyle
  url : Option String
  skuId : Option (Id .sku)
deriving DecidableEq

namespace ButtonStyle

def code : ButtonStyle → Nat
  | .primary => 1
  | .secondary => 2
  | .success => 3
  | .danger => 4
  | .link => 5
  | .premium => 6

def ofCode? : Nat → Option ButtonStyle
  | 1 => some .primary
  | 2 => some .secondary
  | 3 => some .success
  | 4 => some .danger
  | 5 => some .link
  | 6 => some .premium
  | _ => none

def name : ButtonStyle → String
  | .primary => "Primary"
  | .secondary => "Secondary"
  | .success => "Success"
  | .danger => "Danger"
  | .link => "Link"
  | .premium => "Premium"

def decode : Decoder ButtonStyle := Decoder.code ofCode?

def encode (s : ButtonStyle) : Json := .int s.code

end ButtonStyle

namespace EmojiRef

/-- an emoji that is text itself -/
def unicode (name : String) : EmojiRef := ⟨none, some name, false⟩

def reader : Reader EmojiRef :=
  mk <$> .optional "id" Id.decode
    <*> .optional "name" Decoder.text
    <*> .defaulted "animated" false Decoder.flag

def decode : Decoder EmojiRef := reader.decode "EmojiRef"

def encode (e : EmojiRef) : Json :=
  .obj (memberSome "id" Id.encode e.id ++ memberSome "name" .str e.name ++ memberFlag "animated" e.animated)

end EmojiRef

namespace Button

/-- a button with nothing set -/
def blank : Button := ⟨none, none, false, none, none, none, none, none⟩

/-- a button that sends an interaction -/
def new (style : ButtonStyle) (customId : String) : Button :=
  { blank with customId := some customId, style := some style }

/-- a button that opens a page -/
def link (label url : String) : Button :=
  { blank with label := some label, style := some .link, url := some url }

def effectiveStyle (b : Button) : ButtonStyle := b.style.getD .primary

def withDefaultStyle (b : Button) : Button := { b with style := some b.effectiveStyle }

def reader : Reader Button :=
  mk <$> .optional "id" Decoder.int32
    <*> .optional "custom_id" Decoder.text
    <*> .defaulted "disabled" false Decoder.flag
    <*> .optional "emoji" EmojiRef.decode
    <*> .optional "label" Decoder.text
    <*> .optional "style" ButtonStyle.decode
    <*> .optional "url" Decoder.text
    <*> .optional "sku_id" Id.decode

def members (b : Button) : Members :=
  memberSome "id" Json.int32 b.id ++ memberSome "custom_id" .str b.customId ++ memberFlag "disabled" b.disabled
    ++ memberSome "emoji" EmojiRef.encode b.emoji ++ memberSome "label" .str b.label
    ++ member "style" b.effectiveStyle.encode ++ memberSome "url" .str b.url
    ++ memberSome "sku_id" Id.encode b.skuId

end Button

end InteractionKit
