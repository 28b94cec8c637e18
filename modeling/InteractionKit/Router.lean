import InteractionKit.Config
import InteractionKit.Interaction.Basic
import InteractionKit.Response
/-
From interactions to the functions that answer them.

Commands are known by their names, components and modals by their custom ids. A key that ends in a colon stands for
every text that begins with it up to the first colon. An exact key comes before such a route.

- `Router.register`: one more route, over an earlier one of the same key.
- `Router.route`: what becomes of an interaction.
- `Router.dispatch`: the response to it.
-/
namespace InteractionKit

/-! ## Routes -/

/-- the routes of one family, over handlers of a type -/
structure Routes (η : Type) where
  exact : List (String × η)
  /-- routes for all texts that begin with a key and a colon -/
  leading : List (String × η)

/-- a key without the colon at its end, if there is one -/
def dropColon? (s : String) : Option String :=
  match s.toList.reverse with
  | ':' :: r => some (String.ofList r.reverse)
  | _ => none

/-- the text before the first colon -/
def routeOf? (s : String) : Option String := (splitAtColon s.toList).map fun p => String.ofList p.1

/-- a list of routes with one more, over an earlier one of the same key -/
def putRoute {η : Type} (key : String) (h : η) : List (String × η) → List (String × η)
  | [] => [(key, h)]
  | (k, g) :: r => if k = key then (k, h) :: r else (k, g) :: putRoute key h r

namespace Routes

variable {η : Type}

def empty : Routes η := ⟨[], []⟩

def size (r : Routes η) : Nat := r.exact.length + r.leading.length

def insert (r : Routes η) (key : String) (h : η) : Routes η :=
  match dropColon? key with
  | some k => { r with leading := putRoute k h r.leading }
  | none => { r with exact := putRoute key h r.exact }

def get? (r : Routes η) (key : String) : Option η :=
  (r.exact.lookup key).or ((routeOf? key).bind fun k => r.leading.lookup k)

end Routes

/-! ## Routers -/

/-- what a route is for -/
inductive RouteFamily where
  | command
  | autocomplete
  | component
  | modal
deriving DecidableEq, Repr

structure Router (η : Type) where
  /-- the application whose interactions are routed; any, if none -/
  applicationId : Option ApplicationId
  commands : Routes η
  autocomplete : Routes η
  components : Routes η
  modals : Routes η

/-- what becomes of an interaction -/
inductive Routed (η : Type) where
  | ignored
  | pong
  | handled (h : η)
deriving DecidableEq

/-- what answers an interaction; it may misuse an option -/
abbrev Handler := Interaction → Except CommandOption.Misuse Response

namespace Router

variable {η : Type}

def empty : Router η := ⟨none, .empty, .empty, .empty, .empty⟩

def ofConfig (c : Config) : Router η := { empty with applicationId := c.applicationId }

def routes (r : Router η) : RouteFamily → Routes η
  | .command => r.commands
  | .autocomplete => r.autocomplete
  | .component => r.components
  | .modal => r.modals

def register (r : Router η) (family : RouteFamily) (key : String) (h : η) : Router η :=
  match family with
  | .command => { r with commands := r.commands.insert key h }
  | .autocomplete => { r with autocomplete := r.autocomplete.insert key h }
  | .component => { r with components := r.components.insert key h }
  | .modal => { r with modals := r.modals.insert key h }

/-- the router after a list of registrations -/
def registerAll (r : Router η) (rs : List (RouteFamily × String × η)) : Router η :=
  rs.foldl (fun r p => r.register p.1 p.2.1 p.2.2) r

/-- number of routes -/
def size (r : Router η) : Nat := r.commands.size + r.autocomplete.size + r.components.size + r.modals.size

def isEmpty (r : Router η) : Bool := r.size = 0

/-- the family and the key that an interaction is routed by, if its data is there -/
def keyOf? (i : Interaction) : Option (RouteFamily × String) :=
  match i.kind with
  | .command => (Interaction.commandData? i).map fun d => (.command, d.name)
  | .autocomplete => (Interaction.commandData? i).map fun d => (.autocomplete, d.name)
  | .component => (Interaction.componentData? i).map fun d => (.component, d.customId)
  | .modalSubmit => (Interaction.modalData? i).map fun d => (.modal, d.customId)
  | .ping | .unknown _ => none

/-- whether an interaction is for the router's application -/
def accepts (r : Router η) (i : Interaction) : Bool :=
  match r.applicationId with
  | none => true
  | some a => i.applicationId = a

def route (r : Router η) (i : Interaction) : Routed η :=
  if r.accepts i then
    if i.kind = .ping then .pong
    else
      match (keyOf? i).bind fun p => (r.routes p.1).get? p.2 with
      | some h => .handled h
      | none => .ignored
  else .ignored

/-- the response to an interaction, none if nothing answers it -/
def dispatch (r : Router Handler) (i : Interaction) : Option (Except CommandOption.Misuse Response) :=
  match r.route i with
  | .ignored => none
  | .pong => some (.ok .pong)
  | .handled h => some (h i)

/-! ## Descriptions -/

def describeId (a : Option ApplicationId) : String :=
  match a with
  | none => "None"
  | some a => "Some(" ++ a.describe ++ ")"

def describe (r : Router η) : String :=
  "InteractionRouter \x7b application_id: " ++ describeId r.applicationId ++ ", commands: " ++ toString r.commands.size
    ++ ", autocomplete: " ++ toString r.autocomplete.size ++ ", components: " ++ toString r.components.size
    ++ ", modals: " ++ toString r.modals.size ++ " \x7d"

end Router

end InteractionKit
