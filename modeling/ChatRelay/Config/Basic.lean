import ChatRelay.Catalog
import ChatRelay.Text.Blank
import ChatRelay.Vendor.Basic

/-!
# Configuration

The providers by name, the provider to use when none is named, and how to log. A configuration is
checked as a whole; the first fault found is the one reported.
-/
namespace ChatRelay

/-- A provider: whose protocol it speaks, and its settings. -/
structure ProviderConfig where
  vendor : Vendor
  model : Option String
  maxTokens : Option UInt32
  deriving DecidableEq, Repr

inductive LogFormat where
  | text | json
  deriving DecidableEq, Repr

def LogFormat.name : LogFormat → String
  | .text => "text"
  | .json => "json"

structure Telemetry where
  logFilter : Option String
  format : LogFormat
  deriving DecidableEq, Repr

/-- The filter where no one sets one. -/
def Telemetry.standardFilter : String := "warn"

/-- The filter in effect: the one asked for, else the configured one, else the standard one. -/
def Telemetry.filter (configured : Option Telemetry) (asked : Option String) : String :=
  (asked.or (configured.bind Telemetry.logFilter)).getD standardFilter

structure Config where
  /-- The provider to use when none is named, if one is chosen. -/
  chosenDefault : Option String
  providers : Catalog ProviderConfig
  telemetry : Option Telemetry

inductive ConfigFault where
  | noProviders
  | unknownDefault (name : String)
  | blankName
  | zeroMaxTokens (name : String)
  | blankModel (name : String)
  deriving DecidableEq, Repr

namespace ConfigFault

def message : ConfigFault → String
  | .noProviders => "at least one provider must be configured"
  | .unknownDefault name => "default_provider '" ++ name ++ "' is not a configured provider"
  | .blankName => "provider names must not be empty"
  | .zeroMaxTokens name => "providers." ++ name ++ ".max_tokens must be greater than 0"
  | .blankModel name => "providers." ++ name ++ ".model must not be empty"

end ConfigFault

namespace Config

/-- The provider to use when none is named: the chosen one, else the first. -/
def defaultProvider (c : Config) : Option String := c.chosenDefault.or c.providers.names.head?

def providerFault? (name : String) (p : ProviderConfig) : Option ConfigFault :=
  if Text.isAllBlank name then some .blankName
  else if p.maxTokens = some 0 then some (.zeroMaxTokens name)
  else if p.model.any Text.isAllBlank then some (.blankModel name)
  else none

def defaultFault? (c : Config) : Option ConfigFault :=
  match c.chosenDefault with
  | some name => if (c.providers.find? name).isSome then none else some (.unknownDefault name)
  | none => none

def fault? (c : Config) : Option ConfigFault :=
  if c.providers.isEmpty then some .noProviders
  else c.defaultFault?.or (c.providers.entries.findSome? fun e => providerFault? e.1 e.2)

end Config
end ChatRelay
