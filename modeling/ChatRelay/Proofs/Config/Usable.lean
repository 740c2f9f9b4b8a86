import ChatRelay.Proofs.Vendor.Parameters

/-!
# Checked configurations

A configuration passes its check exactly if it has a provider, chooses no default but one of its
providers, and every provider is sound. One that passes is usable: its default is one of its
providers, its registry holds a converter for each of them and for no other name, and what a
request leaves open is sent as the provider's settings say.
-/
namespace ChatRelay

/-- Some character is not blank. -/
def Text.Visible (s : String) : Prop := ∃ ch ∈ s.toList, isBlank ch = false

theorem Text.isAllBlank_eq_false_iff (s : String) : isAllBlank s = false ↔ Visible s := by
  simp [isAllBlank, Visible]

/-- A provider under a name has no settings that are blank or zero. -/
structure ProviderConfig.Sound (name : String) (p : ProviderConfig) : Prop where
  name : Text.Visible name
  maxTokens : p.maxTokens ≠ some 0
  model : ∀ m, p.model = some m → Text.Visible m

/-- A configuration has providers, among them the default if one is chosen, and all are sound. -/
structure Config.Sound (cfg : Config) : Prop where
  provided : cfg.providers.entries ≠ []
  chosen : ∀ name, cfg.chosenDefault = some name → name ∈ cfg.providers.names
  providers : ∀ name p, (name, p) ∈ cfg.providers.entries → p.Sound name

/-- A converter sends a request that leaves the model or the budget open as a provider's settings
say. -/
structure Converter.Serves (c : Converter) (p : ProviderConfig) : Prop where
  vendor : c.vendor = p.vendor
  sends : ∀ history r items, Input.parse r.input = .ok items → ∃ body,
    c.payload history r = .ok body ∧
      (p.vendor ≠ .gemini → (∀ m, r.model = some m → m = "") →
        body.get? "model" = p.model.map .str) ∧
      (p.vendor = .claude → (∀ n, r.maxTokens = some n → n = 0) →
        body.get? "max_tokens" = some (writtenCount (p.maxTokens.getD Budget.standard.tokens)))

/-- A configuration whose default and whose registry can be relied on. -/
structure Config.Usable (cfg : Config) : Prop where
  default : ∃ name ∈ cfg.providers.names, cfg.defaultProvider = some name ∧
    (cfg.chosenDefault = some name ∨
      cfg.chosenDefault = none ∧ cfg.providers.names.head? = some name)
  listed : (Registry.ofConfig cfg).names = cfg.providers.names
  found : ∀ name p, (name, p) ∈ cfg.providers.entries →
    ∃ c, (Registry.ofConfig cfg).get name = .ok c ∧ c.Serves p
  unknown : ∀ name, name ∉ cfg.providers.names →
    (Registry.ofConfig cfg).get name = .error (.unsupportedProvider name)

namespace Config

/-- The check of one provider finds nothing exactly if the provider is sound. -/
theorem providerFault?_eq_none_iff (name : String) (p : ProviderConfig) :
    providerFault? name p = none ↔ p.Sound name := by
  constructor
  · intro passed
    unfold providerFault? at passed
    split at passed
    · cases passed
    next name_ok =>
    split at passed
    · cases passed
    next maxTokens_ok =>
    split at passed
    · cases passed
    next model_ok =>
    refine ⟨(Text.isAllBlank_eq_false_iff name).1 (Bool.eq_false_iff.2 name_ok), maxTokens_ok, ?_⟩
    intro m here
    rw [here] at model_ok
    exact (Text.isAllBlank_eq_false_iff m).1 (Bool.eq_false_iff.2 model_ok)
  · intro sound
    have model_ok : ¬ p.model.any Text.isAllBlank = true := by
      cases here : p.model with
      | none => exact Bool.false_ne_true
      | some m =>
        exact Bool.eq_false_iff.1 ((Text.isAllBlank_eq_false_iff m).2 (sound.model m here))
    have name_ok := Bool.eq_false_iff.1 ((Text.isAllBlank_eq_false_iff name).2 sound.name)
    rw [providerFault?, if_neg name_ok, if_neg sound.maxTokens, if_neg model_ok]

/-- The check of the default finds nothing exactly if it is open or configured. -/
theorem defaultFault?_eq_none_iff (cfg : Config) :
    cfg.defaultFault? = none ↔
      ∀ name, cfg.chosenDefault = some name → name ∈ cfg.providers.names := by
  unfold defaultFault?
  cases cfg.chosenDefault with
  | none => simp
  | some name =>
    have known : (cfg.providers.find? name).isSome = true ↔ name ∈ cfg.providers.names := by
      rw [← not_iff_not, ← Catalog.find?_eq_none_iff, Bool.not_eq_true, Option.isSome_eq_false_iff,
        Option.isNone_iff_eq_none]
    simp [known]

/-- A configuration passes its check exactly if it is sound. -/
theorem fault?_eq_none_iff (cfg : Config) : cfg.fault? = none ↔ cfg.Sound := by
  have sound_iff : cfg.Sound ↔ cfg.providers.entries ≠ [] ∧ cfg.defaultFault? = none ∧
      ∀ e ∈ cfg.providers.entries, providerFault? e.1 e.2 = none := by
    rw [defaultFault?_eq_none_iff]
    constructor
    · intro sound
      refine ⟨sound.provided, sound.chosen, ?_⟩
      intro e member
      exact (providerFault?_eq_none_iff e.1 e.2).2 (sound.providers e.1 e.2 member)
    · rintro ⟨provided, chosen, providers⟩
      refine ⟨provided, chosen, ?_⟩
      intro name p member
      exact (providerFault?_eq_none_iff name p).1 (providers (name, p) member)
  rw [sound_iff, fault?, Catalog.isEmpty]
  cases cfg.providers.entries with
  | nil => simp
  | cons e rest => simp [Option.or_eq_none_iff]

/-- The default of a sound configuration is one of its providers. -/
theorem Sound.default {cfg : Config} (sound : cfg.Sound) :
    ∃ name ∈ cfg.providers.names, cfg.defaultProvider = some name ∧
      (cfg.chosenDefault = some name ∨
        cfg.chosenDefault = none ∧ cfg.providers.names.head? = some name) := by
  unfold defaultProvider
  cases chosen : cfg.chosenDefault with
  | some name => exact ⟨name, sound.chosen name chosen, rfl, .inl rfl⟩
  | none =>
    cases names : cfg.providers.names with
    | nil => exact absurd (List.map_eq_nil_iff.1 names) sound.provided
    | cons name rest => exact ⟨name, List.mem_cons_self, rfl, .inr ⟨rfl, rfl⟩⟩

end Config

/-- The converter that a registry holds for a sound provider serves it. -/
theorem Registry.serves_of_get {cfg : Config} {name : String} {p : ProviderConfig} {c : Converter}
    (declared : (name, p) ∈ cfg.providers.entries) (sound : p.Sound name)
    (found : (ofConfig cfg).get name = .ok c) : c.Serves p := by
  have built := Converter.Built.configured declared found
  have vendor : c.vendor = p.vendor := by
    rw [get_ofConfig, Catalog.find?_eq_some_iff.2 declared] at found
    cases found
    exact (converterOf_settings p).1
  have budget : Setting.lastBudget p.settings = p.maxTokens := by
    rw [p.lastBudget_settings]
    cases tokens : p.maxTokens with
    | none => rfl
    | some n =>
      have counts : n ≠ 0 := fun zero => sound.maxTokens (tokens.trans (congrArg some zero))
      rw [Option.filter_some, if_pos (decide_eq_true counts)]
  refine ⟨vendor, ?_⟩
  intro history r items parses
  obtain ⟨body, sent, told⟩ := payload_parameters built parses history
  refine ⟨body, sent, ?_⟩
  rw [vendor] at told
  cases kind : p.vendor with
  | claude =>
    rw [kind] at told
    obtain ⟨-, budgeted, named⟩ := told
    rw [budget] at budgeted
    rw [p.lastModel_settings] at named
    exact ⟨fun _ => named.configured, fun _ => budgeted.configured⟩
  | openai =>
    rw [kind] at told
    obtain ⟨-, -, named⟩ := told
    rw [p.lastModel_settings] at named
    exact ⟨fun _ => named.configured, fun claude => nomatch claude⟩
  | gemini => exact ⟨fun other => absurd rfl other, fun claude => nomatch claude⟩

/-- A configuration passes its check exactly if it is sound, and one that passes is usable. -/
theorem usable_of_checked (cfg : Config) :
    (cfg.fault? = none ↔ cfg.Sound) ∧ (cfg.fault? = none → cfg.Usable) := by
  refine ⟨cfg.fault?_eq_none_iff, ?_⟩
  intro passed
  have sound := cfg.fault?_eq_none_iff.1 passed
  refine ⟨sound.default, Catalog.names_map _ _, ?_, ?_⟩
  · intro name p declared
    have found : (Registry.ofConfig cfg).get name = .ok (Registry.converterOf p) := by
      rw [Registry.get_ofConfig, Catalog.find?_eq_some_iff.2 declared]
    exact ⟨_, found, Registry.serves_of_get declared (sound.providers name p declared) found⟩
  · intro name unknown
    rw [Registry.get_ofConfig, Catalog.find?_eq_none_iff.2 unknown]

/-- Two providers, the second of which is the default. -/
def twoProviders : Config :=
  ⟨some "careful", .ofList [("fast", ⟨.gemini, some "gemini-2.0-flash", none⟩),
    ("careful", ⟨.claude, none, some 8192⟩)], none⟩

theorem usable_of_checked_twoProviders : twoProviders.Sound ∧ twoProviders.Usable := by
  have passed : twoProviders.fault? = none := by decide
  exact ⟨(usable_of_checked twoProviders).1.1 passed, (usable_of_checked twoProviders).2 passed⟩

end ChatRelay
