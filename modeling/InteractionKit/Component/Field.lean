import InteractionKit.Json.Record
/-
What a modal asks for: text, and files.
-/
namespace InteractionKit

inductive TextInputStyle where
  | short
  | paragraph
deriving DecidableEq, Repr

structure TextInput where
  id : Option Int32
  customId : String
  style : Option TextInputStyle
  label : Option String
  placeholder : Option String
  minLength : Option UInt16
  maxLength : Option UInt16
  required : Option Bool
  /-- what is filled in, or was submitted -/
  value : Option String
deriving DecidableEq

structure FileUpload where
  id : Option Int32
  customId : String
  minValues : Option UInt8
  maxValues : Option UInt8
  required : Option Bool
  /-- ids of the uploaded files, when sent back from a modal -/
  values : List String
deriving DecidableEq

namespace TextInputStyle

def code : TextInputStyle → Nat
  | .short => 1
  | .paragraph => 2

def ofCode? : Nat → Option TextInputStyle
  | 1 => some .short
  | 2 => some .paragraph
  | _ => none

def decode : Decoder TextInputStyle := Decoder.code ofCode?

def encode (s : TextInputStyle) : Json := .int s.code

end TextInputStyle

namespace TextInput

def new (customId : String) (style : TextInputStyle) : TextInput :=
  ⟨none, customId, some style, none, none, none, none, none, none⟩

def reader : Reader TextInput :=
  mk <$> .optional "id" Decoder.int32
    <*> .required "custom_id" Decoder.text
    <*> .optional "style" TextInputStyle.decode
    <*> .optional "label" Decoder.text
    <*> .optional "placeholder" Decoder.text
    <*> .optional "min_length" Decoder.uint16
    <*> .optional "max_length" Decoder.uint16
    <*> .optional "required" Decoder.flag
    <*> .optional "value" Decoder.text

def members (t : TextInput) : Members :=
  memberSome "id" Json.int32 t.id ++ member "custom_id" (.str t.customId)
    ++ memberSome "style" TextInputStyle.encode t.style ++ memberSome "label" .str t.label
    ++ memberSome "placeholder" .str t.placeholder ++ memberSome "min_length" Json.uint16 t.minLength
    ++ memberSome "max_length" Json.uint16 t.maxLength ++ memberSome "required" .bool t.required
    ++ memberSome "value" .str t.value

end TextInput

namespace FileUpload

def reader : Reader FileUpload :=
  mk <$> .optional "id" Decoder.int32
    <*> .required "custom_id" Decoder.text
    <*> .optional "min_values" Decoder.uint8
    <*> .optional "max_values" Decoder.uint8
    <*> .optional "required" Decoder.flag
    <*> .defaulted "values" [] (Decoder.list Decoder.text)

def members (f : FileUpload) : Members :=
  memberSome "id" Json.int32 f.id ++ member "custom_id" (.str f.customId)
    ++ memberSome "min_values" Json.uint8 f.minValues ++ memberSome "max_values" Json.uint8 f.maxValues
    ++ memberSome "required" .bool f.required ++ memberList "values" .str f.values

end FileUpload

end InteractionKit
