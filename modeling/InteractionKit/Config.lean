import InteractionKit.Id
import InteractionKit.Text.Blank
/-
Settings, read from named variables.

A variable that is unset or blank keeps the setting's default. Values are read without the blanks around them.

- `Config.ofVariables`: the settings of a source of variables.
- `RequestOptions`: what goes along with every remote lookup.
-/
namespace InteractionKit

/-- what goes along with a remote lookup -/
structure RequestOptions where
  /-- the reason shown in the audit log -/
  reason : Option String
  /-- milliseconds until the lookup is given up -/
  timeout : Option Nat
deriving DecidableEq, Repr

structure Config where
  /-- the application whose interactions are routed; any, if none -/
  applicationId : Option ApplicationId
  /-- whether lookups may ask a remote source -/
  resolveRemote : Bool
  request : RequestOptions
deriving DecidableEq

/-- a variable with a value that cannot be read -/
structure ConfigError where
  setting : String
  value : String
  cause : Option IntegerError
deriving DecidableEq, Repr

def ConfigError.message (e : ConfigError) : String := e.setting ++ " has an invalid value: " ++ quoted e.value

def RequestOptions.blank : RequestOptions := ⟨none, none⟩

namespace Config

def applicationIdVariable : String := "DISCORD_APPLICATION_ID"
def resolveRemoteVariable : String := "DISCORD_RESOLVE_REMOTE"
def auditReasonVariable : String := "DISCORD_AUDIT_REASON"

def standard : Config := ⟨none, true, .blank⟩

/-- the value of a variable without blanks around it, if anything is left -/
def setting? (source : String → Option String) (name : String) : Option String :=
  ((source name).map trim).filter fun s => !s.isEmpty

/-- a letter of `A` to `Z` in lower case, any other character as it is -/
def lowerAscii (c : Char) : Char := if 'A' ≤ c ∧ c ≤ 'Z' then Char.ofNat (c.toNat + 32) else c

/-- a switch, by one of the words for it in any case -/
def switch? (s : String) : Option Bool :=
  let word := String.ofList (s.toList.map lowerAscii)
  if word ∈ ["1", "true", "yes", "on"] then some true
  else if word ∈ ["0", "false", "no", "off"] then some false
  else none

def readApplicationId (source : String → Option String) : Except ConfigError (Option ApplicationId) :=
  match setting? source applicationIdVariable with
  | none => .ok none
  | some s =>
    match Id.parse s with
    | .ok a => .ok (some a)
    | .error e => .error ⟨applicationIdVariable, s, some e⟩

def readResolveRemote (source : String → Option String) : Except ConfigError Bool :=
  match setting? source resolveRemoteVariable with
  | none => .ok true
  | some s => (switch? s).elim (.error ⟨resolveRemoteVariable, s, none⟩) .ok

def ofVariables (source : String → Option String) : Except ConfigError Config :=
  match readApplicationId source with
  | .error e => .error e
  | .ok applicationId =>
    match readResolveRemote source with
    | .error e => .error e
    | .ok resolveRemote => .ok ⟨applicationId, resolveRemote, ⟨setting? source auditReasonVariable, none⟩⟩

end Config

end InteractionKit
