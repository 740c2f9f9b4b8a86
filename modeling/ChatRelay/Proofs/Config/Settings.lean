import ChatRelay.Registry

/-!
# How converters come about

A converter starts without settings, or comes from a configuration that nobody has checked, and may
then be given models and budgets any number of times. The last model counts, and so does the last
budget that is not zero.
-/
namespace ChatRelay

/-- One setting of a converter. -/
inductive Setting where
  | model (name : String)
  | budget (tokens : UInt32)
  deriving DecidableEq, Repr

namespace Setting

def model? : Setting → Option String
  | .model name => some name
  | .budget _ => none

/-- The budget that a setting sets; zero sets none. -/
def budget? : Setting → Option UInt32
  | .model _ => none
  | .budget tokens => if tokens = 0 then none else some tokens

def lastModel (settings : List Setting) : Option String := (settings.filterMap model?).getLast?

def lastBudget (settings : List Setting) : Option UInt32 := (settings.filterMap budget?).getLast?

theorem lastModel_append_singleton (settings : List Setting) (s : Setting) :
    lastModel (settings ++ [s]) = s.model?.or (lastModel settings) := by
  cases s <;> simp [lastModel, model?]

theorem lastBudget_append_singleton (settings : List Setting) (s : Setting) :
    lastBudget (settings ++ [s]) = s.budget?.or (lastBudget settings) := by
  unfold lastBudget
  rw [List.filterMap_append, List.getLast?_append]
  cases budget : s.budget? <;> simp [budget]

end Setting

/-- The settings that a configuration gives to a provider. -/
def ProviderConfig.settings (p : ProviderConfig) : List Setting :=
  (p.model.map Setting.model).toList ++ (p.maxTokens.map Setting.budget).toList

/-- What a configuration says of the model is what is in effect in the end. -/
theorem ProviderConfig.lastModel_settings (p : ProviderConfig) :
    Setting.lastModel p.settings = p.model := by
  obtain ⟨vendor, model, maxTokens⟩ := p
  cases model <;> cases maxTokens <;> rfl

theorem ProviderConfig.lastBudget_settings (p : ProviderConfig) :
    Setting.lastBudget p.settings = p.maxTokens.filter fun n => n ≠ 0 := by
  obtain ⟨vendor, model, maxTokens⟩ := p
  cases maxTokens with
  | none => cases model <;> rfl
  | some n =>
    by_cases zero : n = 0 <;> cases model <;>
      simp [settings, Setting.lastBudget, Setting.budget?, zero, Option.filter_some]

namespace Registry

/-- The registry of a configuration holds a converter for each provider, and no other. -/
theorem get_ofConfig (cfg : Config) (name : String) :
    (ofConfig cfg).get name =
      match cfg.providers.find? name with
      | some p => .ok (converterOf p)
      | none => .error (.unsupportedProvider name) := by
  rw [get, ofConfig, Catalog.find?_map]
  cases cfg.providers.find? name <;> rfl

end Registry

namespace Converter

/-- A budget of zero leaves the one that was there. -/
theorem budget_withBudget (c : Converter) (tokens : UInt32) :
    (c.withBudget tokens).budget.tokens =
      (Setting.budget? (.budget tokens)).getD c.budget.tokens := by
  unfold withBudget Budget.ofUInt32? Setting.budget?
  by_cases zero : tokens = 0 <;> simp [zero]

/-- A converter as it may come about, with the settings it has been given. -/
inductive Built : Converter → List Setting → Prop where
  | new (vendor : Vendor) : Built (.ofVendor vendor) []
  | model {c : Converter} {settings : List Setting} (built : Built c settings) (name : String) :
      Built (c.withModel name) (settings ++ [.model name])
  | budget {c : Converter} {settings : List Setting} (built : Built c settings) (tokens : UInt32) :
      Built (c.withBudget tokens) (settings ++ [.budget tokens])
  | configured {cfg : Config} {name : String} {p : ProviderConfig} {c : Converter}
      (declared : (name, p) ∈ cfg.providers.entries)
      (found : (Registry.ofConfig cfg).get name = .ok c) : Built c p.settings

end Converter

/-- What a provider's converter is made of. -/
theorem Registry.converterOf_settings (p : ProviderConfig) :
    (converterOf p).vendor = p.vendor ∧ (converterOf p).model = Setting.lastModel p.settings ∧
      (converterOf p).budget.tokens =
        (Setting.lastBudget p.settings).getD Budget.standard.tokens := by
  rw [p.lastModel_settings, p.lastBudget_settings]
  obtain ⟨vendor, model, maxTokens⟩ := p
  cases maxTokens with
  | none => exact ⟨rfl, rfl, rfl⟩
  | some n =>
    have made : converterOf ⟨vendor, model, some n⟩ =
        Converter.withBudget ⟨vendor, model, .standard⟩ n := rfl
    refine ⟨rfl, rfl, ?_⟩
    rw [made, Converter.budget_withBudget]
    by_cases zero : n = 0 <;> simp [zero, Setting.budget?, Option.filter_some]

/-- However a converter comes about, its last settings are in effect. -/
theorem Converter.Built.settings_eq {c : Converter} {settings : List Setting}
    (built : c.Built settings) :
    c.model = Setting.lastModel settings ∧
      c.budget.tokens = (Setting.lastBudget settings).getD Budget.standard.tokens := by
  induction built with
  | new vendor => exact ⟨rfl, rfl⟩
  | model built name ih =>
    rw [Setting.lastModel_append_singleton, Setting.lastBudget_append_singleton]
    exact ⟨rfl, ih.2⟩
  | budget built tokens ih =>
    rw [Setting.lastModel_append_singleton, Setting.lastBudget_append_singleton]
    refine ⟨ih.1, ?_⟩
    rw [budget_withBudget, ih.2]
    cases Setting.budget? (.budget tokens) <;> rfl
  | @configured cfg name p c declared found =>
    rw [Registry.get_ofConfig, Catalog.find?_eq_some_iff.2 declared] at found
    cases found
    exact (Registry.converterOf_settings p).2

end ChatRelay
