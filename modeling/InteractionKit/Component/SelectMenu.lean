import InteractionKit.Channel
import InteractionKit.Component.Button
/-
Select menus: of options of their own, or of users, roles and channels.

One record serves the five kinds of menu. Which one it is stands in the number of the component, not in a field.
-/
namespace InteractionKit

structure SelectOption where
  label : String
  value : String
  description : Option String
  emoji : Option EmojiRef
  selected : Bool
deriving DecidableEq

/-- what a preselected entity is -/
inductive DefaultKind where
  | user
  | role
  | channel
deriving DecidableEq, Repr

/-- an entity that is selected from the start -/
structure SelectDefault where
  id : GenericId
  kind : DefaultKind
deriving DecidableEq

structure SelectMenu where
  id : Option Int32
  customId : String
  kind : MenuKind
  placeholder : Option String
  minValues : Option UInt8
  maxValues : Option UInt8
  disabled : Bool
  options : List SelectOption
  channelTypes : List ChannelKind
  defaultValues : List SelectDefault
  /-- only in a modal -/
  required : Option Bool
  /-- what was chosen, when sent back from a modal -/
  values : List String
deriving DecidableEq

namespace SelectOption

def new (label value : String) : SelectOption := ⟨label, value, none, none, false⟩

def reader : Reader SelectOption :=
  mk <$> .required "label" Decoder.text
    <*> .required "value" Decoder.text
    <*> .optional "description" Decoder.text
    <*> .optional "emoji" EmojiRef.decode
    <*> .defaulted "default" false Decoder.flag

def decode : Decoder SelectOption := reader.decode "SelectMenuOption"

def encode (o : SelectOption) : Json :=
  .obj (member "label" (.str o.label) ++ member "value" (.str o.value)
    ++ memberSome "description" .str o.description ++ memberSome "emoji" EmojiRef.encode o.emoji
    ++ memberFlag "default" o.selected)

end SelectOption

namespace DefaultKind

def name : DefaultKind → String
  | .user => "user"
  | .role => "role"
  | .channel => "channel"

def ofName? (s : String) : Option DefaultKind :=
  if s = "user" then some .user
  else if s = "role" then some .role
  else if s = "channel" then some .channel
  else none

/-- a kind by its name -/
def ofName (s : String) : Except ReadError DefaultKind :=
  (ofName? s).elim (.error (.unknownName s ["user", "role", "channel"])) .ok

/-- a kind by its name, alone or as the only key of an object over `null`; in a text nothing else may stand there -/
def decode : Decoder DefaultKind where
  ofValue
    | .str s => ofName s
    | .obj [(key, .null)] => ofName key
    | .obj [(key, v)] => (ofName key).bind fun _ => .error (.wrongType v.outline "unit")
    | .obj _ => .error (.wrongValue .object "map with a single key")
    | v => .error (.wrongType v.outline "string or map")
  ofDraft
    | .scalar (.str s) => (ofName s).mapError .unfit
    | .obj [] (some (.unkeyed found)) => .error (.unfit (.wrongType found "variant identifier"))
    | .obj ((key, v) :: rest) stop =>
      match ofName key with
      | .error e => .error (.unfit e)
      | .ok k =>
        match v with
        | .scalar .null => if rest.isEmpty && stop.isNone then .ok k else .error .notJson
        | .blocked _ => .error .notJson
        | .scalar v => .error (.unfit (.wrongType v.outline "unit"))
        | .arr _ _ => .error (.unfit (.wrongType .list "unit"))
        | .obj _ _ => .error (.unfit (.wrongType .object "unit"))
    | _ => .error .notJson

def encode (k : DefaultKind) : Json := .str k.name

end DefaultKind

namespace SelectDefault

def reader : Reader SelectDefault :=
  mk <$> .required "id" Id.decode <*> .required "type" DefaultKind.decode

def decode : Decoder SelectDefault := reader.decode "SelectDefaultValue"

def encode (d : SelectDefault) : Json := .obj (member "id" d.id.encode ++ member "type" d.kind.encode)

end SelectDefault

namespace SelectMenu

/-- a menu of options, none so far -/
def new (customId : String) : SelectMenu :=
  ⟨none, customId, .text, none, none, none, false, [], [], [], none, []⟩

/-- a menu with one more option -/
def addOption (m : SelectMenu) (o : SelectOption) : SelectMenu := { m with options := m.options ++ [o] }

/-- a menu read as the given kind -/
def reader (kind : MenuKind) : Reader SelectMenu :=
  (fun id customId => mk id customId kind) <$> .optional "id" Decoder.int32
    <*> .required "custom_id" Decoder.text
    <*> .optional "placeholder" Decoder.text
    <*> .optional "min_values" Decoder.uint8
    <*> .optional "max_values" Decoder.uint8
    <*> .defaulted "disabled" false Decoder.flag
    <*> .defaulted "options" [] (Decoder.list SelectOption.decode)
    <*> .defaulted "channel_types" [] (Decoder.list ChannelKind.decode)
    <*> .defaulted "default_values" [] (Decoder.list SelectDefault.decode)
    <*> .optional "required" Decoder.flag
    <*> .defaulted "values" [] (Decoder.list Decoder.text)

def members (m : SelectMenu) : Members :=
  memberSome "id" Json.int32 m.id ++ member "custom_id" (.str m.customId)
    ++ memberSome "placeholder" .str m.placeholder ++ memberSome "min_values" Json.uint8 m.minValues
    ++ memberSome "max_values" Json.uint8 m.maxValues ++ memberFlag "disabled" m.disabled
    ++ memberList "options" SelectOption.encode m.options
    ++ memberList "channel_types" ChannelKind.encode m.channelTypes
    ++ memberList "default_values" SelectDefault.encode m.defaultValues
    ++ memberSome "required" .bool m.required ++ memberList "values" .str m.values

end SelectMenu

end InteractionKit
