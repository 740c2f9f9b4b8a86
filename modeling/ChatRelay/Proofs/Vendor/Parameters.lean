import ChatRelay.Proofs.Config.Settings
import ChatRelay.Proofs.Json.Lookup

/-!
# Parameters of generation

What a payload says about the parameters of a request, read from its JSON. A parameter stands under
its key exactly if the request gives a value that counts: a number greater than zero, stop texts of
which one is not empty. Gemini takes parameters in an object of their own, which is never empty.
Claude always gets a budget, and Claude and OpenAI the model that the request or else the settings
name.
-/
namespace ChatRelay

def Double.Positive (d : Double) : Prop := d.negative = false ∧ 0 < d.rank

theorem Double.isPositive_iff (d : Double) : d.isPositive = true ↔ d.Positive := by
  simp [isPositive, Positive, Nat.pos_iff_ne_zero]

def SomeText (texts : List String) : Prop := ∃ s ∈ texts, s ≠ ""

/-- What is written for texts: those of them that are not empty. -/
def writtenTexts (texts : List String) : Json := .arr ((texts.filter fun s => s ≠ "").map .str)

theorem isWhole_toNat (n : UInt32) :
    -9223372036854775808 ≤ (n.toNat : Int) ∧ (n.toNat : Int) < 18446744073709551616 := by
  have bounded := n.toNat_lt
  omega

/-- What is written for a count. -/
def writtenCount (n : UInt32) : Json :=
  .num (.whole ⟨n.toNat, (isWhole_toNat n).1, (isWhole_toNat n).2⟩)

theorem ofUInt32_eq_writtenCount : Json.ofUInt32 = writtenCount := rfl

/-- What is written for a quantity. -/
def writtenQuantity (d : Double) : Json := .num (.double d)

/-- A parameter has a value that counts. -/
def Given {α : Type} (given : Option α) (counts : α → Prop) : Prop := ∃ a, given = some a ∧ counts a

/-- Under a key of an object stands what a given value that counts is written as. Nothing stands
there if no value is given or the one given does not count, nor if there is no object. -/
def Sends {α : Type} (place : Option Json) (key : String) (given : Option α) (counts : α → Prop)
    (write : α → Json) : Prop :=
  ∀ v, (place.bind fun p => p.get? key) = some v ↔ ∃ a, given = some a ∧ counts a ∧ v = write a

section Sends

variable {α : Type} {place : Option Json} {key : String} {given : Option α} {counts : α → Prop}
  {write : α → Json} {test : α → Bool}

/-- A parameter that is tested before it is written is sent as it should be. -/
theorem sends_of_filter
    (stands : (place.bind fun p => p.get? key) = (given.filter test).map write)
    (agrees : ∀ a, test a = true ↔ counts a) : Sends place key given counts write := by
  intro v
  rw [stands, Option.map_eq_some_iff]
  constructor
  · rintro ⟨a, passed, rfl⟩
    obtain ⟨here, test⟩ := Option.filter_eq_some_iff.1 passed
    exact ⟨a, here, (agrees a).1 test, rfl⟩
  · rintro ⟨a, here, counted, rfl⟩
    exact ⟨a, Option.filter_eq_some_iff.2 ⟨here, (agrees a).2 counted⟩, rfl⟩

theorem isSome_filter_iff (agrees : ∀ a, test a = true ↔ counts a) :
    (given.filter test).isSome = true ↔ Given given counts := by
  cases given with
  | none => simp [Given]
  | some a => simp [Given, Option.isSome_filter, agrees]

theorem Sends.exists_of_given (sends : Sends place key given counts write)
    (counted : Given given counts) : ∃ v, (place.bind fun p => p.get? key) = some v := by
  obtain ⟨a, here, counts⟩ := counted
  exact ⟨write a, (sends (write a)).2 ⟨a, here, counts, rfl⟩⟩

end Sends

namespace Request

variable (r : Request)

theorem maxTokens?_test_iff (n : UInt32) : decide (n ≠ 0) = true ↔ 0 < n := by
  rw [decide_eq_true_eq, UInt32.pos_iff_ne_zero]

theorem stop?_test_iff (texts : List String) :
    (texts.any fun s => decide (s ≠ "")) = true ↔ SomeText texts := by
  simp [SomeText]

/-- The stop texts that count, written as a filter on the request's list. -/
theorem stop?_eq : r.stop? =
    (r.stop.filter fun texts => texts.any fun s => decide (s ≠ "")).map fun texts =>
      texts.filter fun s => s ≠ "" := by
  unfold stop?
  cases r.stop with
  | none => rfl
  | some texts =>
    rw [Option.getD_some, Option.filter_some]
    split
    · next clean =>
      have none_left : (texts.any fun s => decide (s ≠ "")) = false :=
        List.any_eq_false.2 (List.filter_eq_nil_iff.1 clean)
      rw [none_left]
      rfl
    · next s rest clean =>
      have member : s ∈ texts.filter fun s => decide (s ≠ "") := clean ▸ List.mem_cons_self
      rw [if_pos (List.any_eq_true.2 ⟨s, List.mem_filter.1 member⟩), Option.map_some, clean]

theorem hasGenerationParameters_iff : r.hasGenerationParameters = true ↔
    Given r.maxTokens (0 < ·) ∨ Given r.temperature Double.Positive ∨
      Given r.topP Double.Positive ∨ Given r.stop SomeText := by
  rw [hasGenerationParameters, Bool.or_eq_true, Bool.or_eq_true, Bool.or_eq_true, or_assoc,
    or_assoc, stop?_eq, Option.isSome_map, isSome_filter_iff stop?_test_iff]
  exact or_congr (isSome_filter_iff maxTokens?_test_iff)
    (or_congr (isSome_filter_iff Double.isPositive_iff)
      (or_congr (isSome_filter_iff Double.isPositive_iff) Iff.rfl))

end Request

/-- The parameters that all vendors take, in the object where a vendor wants them. -/
structure Sampling (place : Option Json) (topPKey stopKey : String) (r : Request) : Prop where
  temperature : Sends place "temperature" r.temperature Double.Positive writtenQuantity
  topP : Sends place topPKey r.topP Double.Positive writtenQuantity
  stop : Sends place stopKey r.stop SomeText writtenTexts

/-- The payload names the request's model if it has a name, and else the configured one, if any. -/
structure NamesModel (body : Json) (r : Request) (configured : Option String) : Prop where
  own : ∀ m, r.model = some m → m ≠ "" → body.get? "model" = some (.str m)
  configured : (∀ m, r.model = some m → m = "") → body.get? "model" = configured.map .str

/-- The payload sets a budget that is not zero: the request's, else the configured one, else the
standard one. -/
structure Budgeted (body : Json) (r : Request) (configured : Option UInt32) : Prop where
  always : ∃ n : UInt32, body.get? "max_tokens" = some (writtenCount n) ∧ 1 ≤ n.toNat ∧
    n.toNat ≤ 4294967295
  own : ∀ n, r.maxTokens = some n → 0 < n → body.get? "max_tokens" = some (writtenCount n)
  configured : (∀ n, r.maxTokens = some n → n = 0) →
    body.get? "max_tokens" = some (writtenCount (configured.getD Budget.standard.tokens))

/-- The payload has a configuration exactly if some parameter is given, and then one with members.
-/
structure Configured (body : Json) (r : Request) : Prop where
  sampling : Sampling (body.get? "generationConfig") "topP" "stopSequences" r
  maxTokens : Sends (body.get? "generationConfig") "maxOutputTokens" r.maxTokens (0 < ·)
    writtenCount
  present : (body.get? "generationConfig").isSome = true ↔
    Given r.maxTokens (0 < ·) ∨ Given r.temperature Double.Positive ∨
      Given r.topP Double.Positive ∨ Given r.stop SomeText
  nonempty : ∀ config, body.get? "generationConfig" = some config →
    ∃ m ms, config = .obj (m :: ms)

/-- What the payload of a converter with some settings says about the parameters of a request. -/
def Vendor.Parameters (settings : List Setting) (r : Request) (body : Json) : Vendor → Prop
  | .claude => Sampling (some body) "top_p" "stop_sequences" r ∧
      Budgeted body r (Setting.lastBudget settings) ∧
      NamesModel body r (Setting.lastModel settings)
  | .openai => Sampling (some body) "top_p" "stop" r ∧
      Sends (some body) "max_tokens" r.maxTokens (0 < ·) writtenCount ∧
      NamesModel body r (Setting.lastModel settings)
  | .gemini => Configured body r

section Payloads

variable {r : Request} {place : Option Json} {topPKey stopKey : String}

theorem sampling_of_members
    (temperature : (place.bind fun p => p.get? "temperature") = r.temperature?.map Json.ofDouble)
    (topP : (place.bind fun p => p.get? topPKey) = r.topP?.map Json.ofDouble)
    (stop : (place.bind fun p => p.get? stopKey) = r.stop?.map Request.textsToJson) :
    Sampling place topPKey stopKey r where
  temperature := sends_of_filter temperature Double.isPositive_iff
  topP := sends_of_filter topP Double.isPositive_iff
  stop := sends_of_filter (by rw [stop, Request.stop?_eq, Option.map_map]; rfl)
    Request.stop?_test_iff

theorem namesModel_of_member {body : Json} {configured : Option String}
    (member : body.get? "model" = (r.modelOr configured).map .str) :
    NamesModel body r configured where
  own m given named := by
    simp [member, Request.modelOr, Request.model?, given, Option.filter_some, named]
  configured unnamed := by
    have none_left : r.model? = none := by
      simpa [Request.model?, Option.filter_eq_none_iff] using unnamed
    rw [member, Request.modelOr, none_left, Option.none_or]

theorem Request.maxTokens?_of_zero (zero : ∀ n, r.maxTokens = some n → n = 0) :
    r.maxTokens? = none := by
  simpa [maxTokens?, Option.filter_eq_none_iff] using zero

theorem Request.maxTokens?_of_pos {n : UInt32} (given : r.maxTokens = some n) (positive : 0 < n) :
    r.maxTokens? = some n :=
  Option.filter_eq_some_iff.2 ⟨given, (maxTokens?_test_iff n).2 positive⟩

theorem Request.maxTokens?_getD_ne_zero (r : Request) (budget : Budget) :
    r.maxTokens?.getD budget.tokens ≠ 0 := by
  cases counted : r.maxTokens? with
  | none => exact budget.ne_zero
  | some n => exact of_decide_eq_true (Option.filter_eq_some_iff.1 counted).2

theorem budgeted_of_member {body : Json} {budget : Budget} {configured : Option UInt32}
    (settings : budget.tokens = configured.getD Budget.standard.tokens)
    (member : body.get? "max_tokens" = some (writtenCount (r.maxTokens?.getD budget.tokens))) :
    Budgeted body r configured where
  always := by
    have positive := UInt32.pos_iff_ne_zero.2 (r.maxTokens?_getD_ne_zero budget)
    have bounded := UInt32.toNat_lt (r.maxTokens?.getD budget.tokens)
    exact ⟨_, member, UInt32.lt_iff_toNat_lt.1 positive, Nat.le_sub_one_of_lt bounded⟩
  own n given positive := by rw [member, Request.maxTokens?_of_pos given positive, Option.getD_some]
  configured zero := by rw [member, Request.maxTokens?_of_zero zero, Option.getD_none, settings]

theorem Claude.parameters_make {c : Converter} {settings : List Setting} (built : c.Built settings)
    (t : Transcript) (r : Request) :
    Vendor.claude.Parameters settings r (Payload.make c.model c.budget t r).toJson := by
  refine ⟨sampling_of_members ?_ ?_ ?_, budgeted_of_member built.settings_eq.2 ?_,
    namesModel_of_member (built.settings_eq.1 ▸ ?_)⟩ <;>
  simp [Payload.toJson, Payload.make, Json.get?_object, List.lookup_append, List.lookup_cons,
    Json.lookup_optional_of_ne, ofUInt32_eq_writtenCount]

theorem OpenAi.parameters_make {c : Converter} {settings : List Setting} (built : c.Built settings)
    (t : Transcript) (r : Request) :
    Vendor.openai.Parameters settings r (Payload.make c.model t r).toJson := by
  refine ⟨sampling_of_members ?_ ?_ ?_, sends_of_filter ?_
    Request.maxTokens?_test_iff, namesModel_of_member (built.settings_eq.1 ▸ ?_)⟩ <;>
  simp [Payload.toJson, Payload.make, Json.get?_object, List.lookup_append, List.lookup_cons,
    Json.lookup_optional_of_ne, Request.maxTokens?, ofUInt32_eq_writtenCount]

namespace Gemini

theorem get?_generationConfig (t : Transcript) (r : Request) :
    (Payload.make t r).toJson.get? "generationConfig" =
      (GenerationConfig.ofRequest? r).map GenerationConfig.toJson := by
  simp [Payload.toJson, Payload.make, Json.get?_object, List.lookup_append, List.lookup_cons,
    Json.lookup_optional_of_ne]

/-- The configuration holds the parameters that count, also where it is left out. -/
theorem bind_get?_config (r : Request) (key : String) :
    (((GenerationConfig.ofRequest? r).map GenerationConfig.toJson).bind fun p => p.get? key) =
      (GenerationConfig.toJson ⟨r.maxTokens?, r.temperature?, r.topP?, r.stop?⟩).get? key := by
  unfold GenerationConfig.ofRequest?
  cases set : r.hasGenerationParameters with
  | true => rfl
  | false =>
    simp only [Request.hasGenerationParameters, Bool.or_eq_false_iff, Option.isSome_eq_false_iff,
      Option.isNone_iff_eq_none] at set
    obtain ⟨⟨⟨maxTokens, temperature⟩, topP⟩, stop⟩ := set
    rw [maxTokens, temperature, topP, stop]
    rfl

theorem sampling_config (t : Transcript) (r : Request) :
    Sampling ((Payload.make t r).toJson.get? "generationConfig") "topP" "stopSequences" r := by
  rw [get?_generationConfig]
  refine sampling_of_members ?_ ?_ ?_ <;> rw [bind_get?_config] <;>
  simp [GenerationConfig.toJson, Json.get?_object, List.lookup_append, Json.lookup_optional_of_ne]

theorem maxTokens_config (t : Transcript) (r : Request) :
    Sends ((Payload.make t r).toJson.get? "generationConfig") "maxOutputTokens" r.maxTokens (0 < ·)
      writtenCount := by
  refine sends_of_filter ?_ Request.maxTokens?_test_iff
  rw [get?_generationConfig, bind_get?_config]
  simp [GenerationConfig.toJson, Json.get?_object, List.lookup_append, Json.lookup_optional_of_ne,
    Request.maxTokens?, ofUInt32_eq_writtenCount]

theorem present_config (t : Transcript) (r : Request) :
    ((Payload.make t r).toJson.get? "generationConfig").isSome = true ↔
      Given r.maxTokens (0 < ·) ∨ Given r.temperature Double.Positive ∨
        Given r.topP Double.Positive ∨ Given r.stop SomeText := by
  rw [get?_generationConfig, Option.isSome_map, ← Request.hasGenerationParameters_iff,
    GenerationConfig.ofRequest?]
  cases r.hasGenerationParameters <;> simp

theorem parameters_make (settings : List Setting) (t : Transcript) (r : Request) :
    Vendor.gemini.Parameters settings r (Payload.make t r).toJson where
  sampling := sampling_config t r
  maxTokens := maxTokens_config t r
  present := present_config t r
  nonempty := by
    intro config here
    obtain ⟨g, -, rfl⟩ := Option.map_eq_some_iff.1 ((get?_generationConfig t r).symm.trans here)
    unfold GenerationConfig.toJson Json.object at here ⊢
    cases members : Json.Members.ofList _ with
    | cons m ms => exact ⟨m, ms, rfl⟩
    | nil =>
      -- Whatever makes the configuration present stands in it under its key.
      rw [members] at here
      have sampling := here ▸ sampling_config t r
      have maxTokens := here ▸ maxTokens_config t r
      have given := (present_config t r).1 (Option.isSome_of_eq_some here)
      obtain ⟨key, v, stands⟩ : ∃ key v, (Json.obj []).get? key = some v := by
        rcases given with given | given | given | given
        · exact ⟨"maxOutputTokens", maxTokens.exists_of_given given⟩
        · exact ⟨"temperature", sampling.temperature.exists_of_given given⟩
        · exact ⟨"topP", sampling.topP.exists_of_given given⟩
        · exact ⟨"stopSequences", sampling.stop.exists_of_given given⟩
      cases stands

end Gemini

end Payloads

/-- The payload of a converter that has been given some settings says about the parameters of a
request what the request and the settings say. -/
theorem payload_parameters {c : Converter} {settings : List Setting} (built : c.Built settings)
    {r : Request} {items : List Item} (parses : Input.parse r.input = .ok items)
    (history : List Item) :
    ∃ body, c.payload history r = .ok body ∧ c.vendor.Parameters settings r body := by
  refine ⟨c.payloadOfItems (history ++ items) r, ?_, ?_⟩
  · rw [Converter.payload, parses]
  · unfold Converter.payloadOfItems
    cases vendor : c.vendor with
    | claude => exact Claude.parameters_make built _ r
    | openai => exact OpenAi.parameters_make built _ r
    | gemini => exact Gemini.parameters_make settings _ r

/-- A provider that a checked configuration would not have. -/
def uncheckedProvider : ProviderConfig := ⟨.claude, some " ", some 0⟩

/-- The converter of an unchecked provider is given a budget and then none, and a request of which
no parameter counts. -/
theorem payload_parameters_unchecked :
    ∃ body, (((Registry.converterOf uncheckedProvider).withBudget 9).withBudget 0).payload
        [.ofUserText "Hello"] ⟨.str "Hi", none, some "", some 0, some .zero, none, some [""], []⟩ =
          .ok body ∧
      Vendor.claude.Parameters (uncheckedProvider.settings ++ [.budget 9] ++ [.budget 0])
        ⟨.str "Hi", none, some "", some 0, some .zero, none, some [""], []⟩ body := by
  have declared : ("", uncheckedProvider) ∈ (Catalog.ofList [("", uncheckedProvider)]).entries := by
    decide
  have found : (Registry.ofConfig ⟨none, .ofList [("", uncheckedProvider)], none⟩).get "" =
      .ok (Registry.converterOf uncheckedProvider) := rfl
  exact payload_parameters (((Converter.Built.configured declared found).budget 9).budget 0) rfl _

end ChatRelay
