import ChatRelay.Proofs.Transcript.Rendering
import ChatRelay.Proofs.Vendor.Claude.Carriage
import ChatRelay.Proofs.Vendor.Gemini.Carriage
import ChatRelay.Proofs.Vendor.OpenAi.Carriage

/-!
# The vendors are told the same

The payloads of one history and one request are read back from their JSON, each in its vendor's own
format. What is read agrees wherever the formats can say it: Gemini's calls have no ids, and its
results are objects, not texts. And it is all that the instructions and the items say.
-/
namespace ChatRelay

/-- Payloads to the three vendors that carry one conversation. -/
structure SameConversation (claude openai gemini : Json) : Prop where
  system : OpenAi.sentSystem openai = Gemini.sentSystem gemini
  /-- Claude gets the system's texts as one, joined by a blank line, or none. -/
  joined : claude.get? "system" =
    match Gemini.sentSystem gemini with
    | [] => none
    | texts => some (.str (Text.join "\n\n" texts))
  texts : Claude.sentTexts claude = OpenAi.sentTexts openai ∧
    OpenAi.sentTexts openai = Gemini.sentTexts gemini
  calls : (Claude.sentCalls claude).map (fun c => (c.id, c.name)) = OpenAi.sentCalls openai
  inputs : (Claude.sentCalls claude).map (fun c => (c.name, c.input)) = Gemini.sentCalls gemini
  results : Claude.sentResults claude = OpenAi.sentResults openai
  answers : (Claude.sentResults claude).length = (Gemini.sentResults gemini).length

/-- Payloads that leave nothing out of what the instructions and the utterances of a conversation
say. -/
structure TellsAll (said : List Utterance) (r : Request) (claude openai : Json) : Prop where
  system : OpenAi.sentSystem openai = r.preface ++ said.filterMap Utterance.system?
  texts : Claude.sentTexts claude = said.filterMap Utterance.said?
  calls : Claude.sentCalls claude = said.filterMap Utterance.call?
  results : Claude.sentResults claude = said.filterMap Utterance.result?

theorem Claude.get?_system_make (configured : Option String) (budget : Budget) (t : Transcript)
    (r : Request) :
    (Payload.make configured budget t r).toJson.get? "system" =
      (Payload.systemText (r.instructions?.toList ++ t.systemTexts)).map .str := by
  simp [Payload.make, Payload.toJson, Json.get?_object, List.lookup_append, List.lookup_cons,
    Json.lookup_optional_of_ne]

/-- Payloads made of one transcript carry one conversation. -/
theorem sameConversation_make (configured configured' : Option String) (budget : Budget)
    (t : Transcript) (r : Request) :
    SameConversation (Claude.Payload.make configured budget t r).toJson
      (OpenAi.Payload.make configured' t r).toJson (Gemini.Payload.make t r).toJson where
  system := by rw [OpenAi.sentSystem_make, Gemini.sentSystem_make]
  joined := by
    rw [Claude.get?_system_make, Gemini.sentSystem_make]
    cases r.instructions?.toList ++ t.systemTexts <;> rfl
  texts := by
    rw [Claude.sentTexts_make, OpenAi.sentTexts_make, Gemini.sentTexts_make]
    exact ⟨rfl, rfl⟩
  calls := by rw [Claude.sentCalls_make, OpenAi.sentCalls_make]
  inputs := by rw [Claude.sentCalls_make, Gemini.sentCalls_make]
  results := by rw [Claude.sentResults_make, OpenAi.sentResults_make]
  answers := by rw [Claude.sentResults_make, Gemini.length_sentResults_make]

/-- Payloads say all that the entries of the conversation and the instructions say. -/
theorem tellsAll_make (configured configured' : Option String) (budget : Budget)
    (items : List Item) (r : Request) :
    TellsAll ((rendered items).map Entry.utterance) r
      (Claude.Payload.make configured budget (.ofItems items) r).toJson
      (OpenAi.Payload.make configured' (.ofItems items) r).toJson := by
  rw [map_utterance_rendered]
  refine ⟨?_, Claude.sentTexts_make configured budget _ r,
    Claude.sentCalls_make configured budget _ r, Claude.sentResults_make configured budget _ r⟩
  rw [OpenAi.sentSystem_make, r.preface_eq, Transcript.systemTexts_eq]

/-- Whatever the history and the request, and whatever the settings of the vendors. -/
theorem vendors_agree {claude openai gemini : Converter} {r : Request} {items : List Item}
    (isClaude : claude.vendor = .claude) (isOpenAi : openai.vendor = .openai)
    (isGemini : gemini.vendor = .gemini) (parses : Input.parse r.input = .ok items)
    (history : List Item) :
    ∃ forClaude forOpenAi forGemini, claude.payload history r = .ok forClaude ∧
      openai.payload history r = .ok forOpenAi ∧ gemini.payload history r = .ok forGemini ∧
      SameConversation forClaude forOpenAi forGemini ∧
      TellsAll ((rendered (history ++ items)).map Entry.utterance) r forClaude forOpenAi := by
  refine ⟨_, _, _, ?_, ?_, ?_,
    sameConversation_make claude.model openai.model claude.budget (.ofItems (history ++ items)) r,
    tellsAll_make claude.model openai.model claude.budget (history ++ items) r⟩
  · simp only [Converter.payload, parses, Converter.payloadOfItems, isClaude]
  · simp only [Converter.payload, parses, Converter.payloadOfItems, isOpenAi]
  · simp only [Converter.payload, parses, Converter.payloadOfItems, isGemini]

def weatherReport : List Item :=
  [.message .system (.text "Be brief"), .call ⟨"weather", .null, some "c1"⟩, .ofUserText "Wait",
    .output ⟨some "c1", none, .str "rain"⟩, .ofModelText "It rains"]

theorem vendors_agree_weatherReport :
    ∃ forClaude forOpenAi forGemini,
      (Converter.ofVendor .claude).payload weatherReport (.ofInput (.str "Thanks"))
        = .ok forClaude ∧
      (Converter.ofVendor .openai).payload weatherReport (.ofInput (.str "Thanks"))
        = .ok forOpenAi ∧
      (Converter.ofVendor .gemini).payload weatherReport (.ofInput (.str "Thanks"))
        = .ok forGemini ∧
      SameConversation forClaude forOpenAi forGemini ∧
      TellsAll ((rendered (weatherReport ++ [.ofUserText "Thanks"])).map Entry.utterance)
        (.ofInput (.str "Thanks")) forClaude forOpenAi :=
  vendors_agree rfl rfl rfl rfl weatherReport

end ChatRelay
