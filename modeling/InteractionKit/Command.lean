import InteractionKit.Interaction.Resolved
import InteractionKit.Text.Blank
/-
Invoked commands and their options.

An option keeps its value as raw JSON; the typed accessors read it by the kind of the option. An accessor for another
kind is a mistake of the caller, told as `Misuse`. What is typed so far arrives as text, what is submitted as a number;
both read alike.

- `CommandOption`: a tree of options. Its equality is decidable.
- `CommandOption.intValue`, `floatValue`, `boolValue`, `stringValue`: the accessors.
- `CommandData.focusedOption?`: the option the user is typing into.
-/
namespace InteractionKit

/-! ## Kinds -/

inductive CommandKind where
  | chatInput
  | user
  | message
  | primaryEntryPoint
deriving DecidableEq, Repr

namespace CommandKind

def code : CommandKind → Nat
  | .chatInput => 1
  | .user => 2
  | .message => 3
  | .primaryEntryPoint => 4

def ofCode? : Nat → Option CommandKind
  | 1 => some .chatInput
  | 2 => some .user
  | 3 => some .message
  | 4 => some .primaryEntryPoint
  | _ => none

def decode : Decoder CommandKind := Decoder.code ofCode?

def encode (k : CommandKind) : Json := .int k.code

end CommandKind

inductive OptionKind where
  | subCommand
  | subCommandGroup
  | string
  | integer
  | boolean
  | user
  | channel
  | role
  | mentionable
  | number
  | attachment
deriving DecidableEq, Repr

namespace OptionKind

def code : OptionKind → Nat
  | .subCommand => 1
  | .subCommandGroup => 2
  | .string => 3
  | .integer => 4
  | .boolean => 5
  | .user => 6
  | .channel => 7
  | .role => 8
  | .mentionable => 9
  | .number => 10
  | .attachment => 11

def ofCode? : Nat → Option OptionKind
  | 1 => some .subCommand
  | 2 => some .subCommandGroup
  | 3 => some .string
  | 4 => some .integer
  | 5 => some .boolean
  | 6 => some .user
  | 7 => some .channel
  | 8 => some .role
  | 9 => some .mentionable
  | 10 => some .number
  | 11 => some .attachment
  | _ => none

def name : OptionKind → String
  | .subCommand => "SubCommand"
  | .subCommandGroup => "SubCommandGroup"
  | .string => "String"
  | .integer => "Integer"
  | .boolean => "Boolean"
  | .user => "User"
  | .channel => "Channel"
  | .role => "Role"
  | .mentionable => "Mentionable"
  | .number => "Number"
  | .attachment => "Attachment"

def decode : Decoder OptionKind := Decoder.code ofCode?

def encode (k : OptionKind) : Json := .int k.code

end OptionKind

/-! ## Options -/

inductive CommandOption where
  | mk (name : String) (kind : OptionKind) (value : Option Json) (options : List CommandOption) (focused : Bool)

namespace CommandOption

def name : CommandOption → String
  | mk n _ _ _ _ => n

def kind : CommandOption → OptionKind
  | mk _ k _ _ _ => k

/-- the raw value, none for a command within a command -/
def value : CommandOption → Option Json
  | mk _ _ v _ _ => v

/-- the options of a command within a command -/
def options : CommandOption → List CommandOption
  | mk _ _ _ os _ => os

/-- whether the user is typing into the option -/
def focused : CommandOption → Bool
  | mk _ _ _ _ f => f

mutual
/-- whether two options are equal -/
def same : CommandOption → CommandOption → Bool
  | mk n k v os f, mk n' k' v' os' f' => n == n' && k == k' && v == v' && sameAll os os' && f == f'
def sameAll : List CommandOption → List CommandOption → Bool
  | [], [] => true
  | x :: xs, y :: ys => same x y && sameAll xs ys
  | _, _ => false
end

mutual
theorem same_iff : (a b : CommandOption) → (same a b = true ↔ a = b)
  | mk n k v os f, mk n' k' v' os' f' => by simp [same, sameAll_iff os os', and_assoc]
theorem sameAll_iff : (xs ys : List CommandOption) → (sameAll xs ys = true ↔ xs = ys)
  | [], ys => by cases ys <;> simp [sameAll]
  | x :: xs, ys => by
    cases ys with
    | nil => simp [sameAll]
    | cons y ys => simp [sameAll, same_iff x y, sameAll_iff xs ys]
end

instance : DecidableEq CommandOption := fun a b => decidable_of_iff _ (same_iff a b)

/-! ### JSON -/

/-- an option, given how its own options are read -/
def reader (options : Decoder (List CommandOption)) : Reader CommandOption :=
  mk <$> .required "name" Decoder.text
    <*> .required "type" OptionKind.decode
    <*> .optional "value" Decoder.raw
    <*> .defaulted "options" [] options
    <*> .defaulted "focused" false Decoder.flag

mutual
def ofValue : Json → Except ReadError CommandOption
  | .obj ms => (reader (.whole fun _ => optionsIn ms)).decodeMembers ms
  | .arr xs => (reader (.whole fun _ => optionsAt xs)).decodeItems "CommandDataOption" xs
  | v => .error (.wrongType v.outline "struct CommandDataOption")
/-- the options under the first `options` -/
def optionsIn : Members → Except ReadError (List CommandOption)
  | [] => .ok []
  | (k, v) :: r => if k = "options" then optionsOf v else optionsIn r
/-- the options in the fourth place -/
def optionsAt : List Json → Except ReadError (List CommandOption)
  | _ :: _ :: _ :: v :: _ => optionsOf v
  | _ => .ok []
def optionsOf : Json → Except ReadError (List CommandOption)
  | .arr xs => decodeAll xs
  | v => .error (.wrongType v.outline "a sequence")
/-- every option in turn, up to the first that fails -/
def decodeAll : List Json → Except ReadError (List CommandOption)
  | [] => .ok []
  | v :: vs =>
    match ofValue v with
    | .error e => .error e
    | .ok x => (decodeAll vs).map (x :: ·)
end

/-- an option in a text, the options in it nested within `depth` -/
def ofDraft : Nat → Draft → Except TextError CommandOption
  | 0, _ => .error .notJson
  | depth + 1, d => ((reader (.list ⟨ofValue, ofDraft depth⟩)).decode "CommandDataOption").ofDraft d

/-- an option; no text nests its options deeper than it may nest containers -/
def decode : Decoder CommandOption := ⟨ofValue, ofDraft Json.maxDepth⟩

mutual
def encode : CommandOption → Json
  | mk n k v os f =>
    .obj (member "name" (.str n) ++ member "type" k.encode ++ memberSome "value" id v
      ++ (if os.isEmpty then [] else member "options" (.arr (encodeAll os))) ++ memberFlag "focused" f)
def encodeAll : List CommandOption → List Json
  | [] => []
  | x :: xs => encode x :: encodeAll xs
end

/-! ### Accessors -/

/-- an accessor used on an option of another kind -/
structure Misuse where
  accessor : String
  option : String
  kind : OptionKind
deriving DecidableEq, Repr

def Misuse.message (m : Misuse) : String :=
  m.accessor ++ " called on option `" ++ m.option ++ "` of type " ++ m.kind.name

/-- what an accessor for one kind reads -/
def expecting {α : Type} (kind : OptionKind) (accessor : String) (o : CommandOption) (read : α) : Except Misuse α :=
  if o.kind = kind then .ok read else .error ⟨accessor, o.name, o.kind⟩

/-- the first option of its own with a name -/
def option? (o : CommandOption) (name : String) : Option CommandOption := o.options.find? fun p => p.name = name

/-- an integer as text: a decimal, or the whole part of any number -/
def intOfText (s : String) : Int :=
  let cs := trimChars s.toList
  match readInteger 9223372036854775808 9223372036854775807 cs with
  | .ok n => n
  | .error _ =>
    match Binary64.ofText? cs with
    | some x => x.toInt64
    | none => 0

/-- an integer of 64 bits in any of its forms, zero without one -/
def intOf : Option Json → Int
  | some (.int n) => if -9223372036854775808 ≤ n ∧ n ≤ 9223372036854775807 then n else (Binary64.ofInt n).toInt64
  | some (.float x) => x.toInt64
  | some (.str s) => intOfText s
  | _ => 0

def zero : Binary64 := ⟨0⟩

/-- a double in any of its forms, zero without one -/
def floatOf : Option Json → Binary64
  | some (.int n) => Binary64.ofInt n
  | some (.float x) => x
  | some (.str s) => (Binary64.ofText? (trimChars s.toList)).getD zero
  | _ => zero

def boolOf : Option Json → Bool
  | some (.bool b) => b
  | _ => false

def stringOf : Option Json → String
  | some (.str s) => s
  | _ => ""

/-- the id that an option for an entity holds -/
def idOf {k : Resource} : Option Json → Option (Id k)
  | some (.str s) => (Id.parse s).toOption
  | some (.int n) => Id.ofNat? n.toNat
  | _ => none

def intValue (o : CommandOption) : Except Misuse Int := o.expecting .integer "int_value" (intOf o.value)

def floatValue (o : CommandOption) : Except Misuse Binary64 := o.expecting .number "float_value" (floatOf o.value)

def boolValue (o : CommandOption) : Except Misuse Bool := o.expecting .boolean "bool_value" (boolOf o.value)

def stringValue (o : CommandOption) : Except Misuse String := o.expecting .string "string_value" (stringOf o.value)

/-! ### Focus -/

mutual
/-- the option itself if it is focused, else the first focused one below it -/
def focused? : CommandOption → Option CommandOption
  | mk n k v os f => if f then some (mk n k v os f) else focusedAmong? os
def focusedAmong? : List CommandOption → Option CommandOption
  | [] => none
  | o :: os => (focused? o).or (focusedAmong? os)
end

end CommandOption

/-! ## Commands -/

structure CommandData where
  id : Id .command
  name : String
  kind : CommandKind
  /-- the guild that the command is registered in -/
  guildId : Option GuildId
  options : List CommandOption
  resolved : Option Resolved
  /-- the user or message that a context menu was opened on -/
  targetId : Option GenericId
deriving DecidableEq

namespace CommandData

/-- the first option with a name -/
def option? (c : CommandData) (name : String) : Option CommandOption := c.options.find? fun o => o.name = name

/-- the option that the user is typing into, at any depth -/
def focusedOption? (c : CommandData) : Option CommandOption := CommandOption.focusedAmong? c.options

/-- the option at a path of names -/
def optionAt? (c : CommandData) : List String → Option CommandOption
  | [] => none
  | name :: names => names.foldl (fun o n => o.bind fun o => o.option? n) (c.option? name)

def reader : Reader CommandData :=
  mk <$> .required "id" Id.decode
    <*> .required "name" Decoder.text
    <*> .defaulted "type" .chatInput CommandKind.decode
    <*> .optional "guild_id" Id.decode
    <*> .defaulted "options" [] (Decoder.list CommandOption.decode)
    <*> .optional "resolved" Resolved.decode
    <*> .optional "target_id" Id.decode

def decode : Decoder CommandData := reader.decode "CommandData"

def encode (c : CommandData) : Json :=
  .obj (member "id" c.id.encode ++ member "name" (.str c.name) ++ member "type" c.kind.encode
    ++ memberSome "guild_id" Id.encode c.guildId ++ memberList "options" CommandOption.encode c.options
    ++ memberSome "resolved" Resolved.encode c.resolved ++ memberSome "target_id" Id.encode c.targetId)

end CommandData

end InteractionKit
