import InteractionKit.Interaction.Resolved
/-
What a pressed button or a used select menu sends.

A custom id is often written as a route and an argument with a colon between them.
-/
namespace InteractionKit

/-- a text cut at its first colon -/
def splitAtColon : List Char → Option (List Char × List Char)
  | [] => none
  | c :: cs => if c = ':' then some ([], cs) else (splitAtColon cs).map fun (a, b) => (c :: a, b)

structure ComponentData where
  customId : String
  kind : ComponentKind
  /-- the values of the chosen options -/
  values : List String
  /-- the chosen entities -/
  resolved : Option Resolved
deriving DecidableEq

namespace ComponentKind

def decode : Decoder ComponentKind := Decoder.code ofCode?

def encode (k : ComponentKind) : Json := .int k.code

end ComponentKind

namespace ComponentData

/-- what follows the first colon of the custom id -/
def argument? (d : ComponentData) : Option String :=
  (splitAtColon d.customId.toList).map fun p => String.ofList p.2

def reader : Reader ComponentData :=
  mk <$> .required "custom_id" Decoder.text
    <*> .required "component_type" ComponentKind.decode
    <*> .defaulted "values" [] (Decoder.list Decoder.text)
    <*> .optional "resolved" Resolved.decode

def decode : Decoder ComponentData := reader.decode "MessageComponentInteractionData"

def encode (d : ComponentData) : Json :=
  .obj (member "custom_id" (.str d.customId) ++ member "component_type" d.kind.encode
    ++ memberList "values" .str d.values ++ memberSome "resolved" Resolved.encode d.resolved)

end ComponentData

end InteractionKit
