import ChatRelay.Config.Basic
import ChatRelay.Converter

/-!
# Registries

The converters by the names of their providers.
-/
namespace ChatRelay

abbrev Registry := Catalog Converter

namespace Registry

def empty : Registry := Catalog.empty

/-- One converter without settings for each vendor, under the vendor's name. -/
def standard : Registry :=
  Catalog.ofList ([Vendor.claude, .gemini, .openai].map fun v => (v.name, .ofVendor v))

def converterOf (p : ProviderConfig) : Converter :=
  let c := { Converter.ofVendor p.vendor with model := p.model }
  match p.maxTokens with
  | some n => c.withBudget n
  | none => c

/-- The converters of a configuration, under the names of its providers. -/
def ofConfig (c : Config) : Registry := c.providers.map converterOf

def configEvents (c : Config) : List Event := c.providers.entries.map fun e =>
  .converterRegistered e.1 e.2.vendor.name (e.2.model.getD "")

def get (r : Registry) (name : String) : Except RelayError Converter :=
  match r.find? name with
  | some c => .ok c
  | none => .error (.unsupportedProvider name)

end Registry
end ChatRelay
