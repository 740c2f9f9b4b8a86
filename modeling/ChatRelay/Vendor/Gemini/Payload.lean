import ChatRelay.Vendor.Basic
import ChatRelay.Vendor.Gemini.Contents

/-!
# Gemini payloads

The body of a request to Gemini. The model is named elsewhere, and parameters stand together in a
configuration that is left out when it would be empty.
-/
namespace ChatRelay.Gemini

structure FunctionDeclaration where
  name : String
  description : Option String
  parameters : Option Json
  deriving Repr, BEq

namespace FunctionDeclaration

def ofDefinition (t : ToolDefinition) : FunctionDeclaration := ⟨t.name, t.description, t.parameters⟩

def toJson (f : FunctionDeclaration) : Json := Json.object
  ([("name", .str f.name)] ++ Json.optional "description" (f.description.map .str)
    ++ Json.optional "parameters" f.parameters)

end FunctionDeclaration

structure GenerationConfig where
  maxOutputTokens : Option UInt32
  temperature : Option Double
  topP : Option Double
  stopSequences : Option (List String)
  deriving Repr, BEq

namespace GenerationConfig

/-- The configuration of a request that sets any parameter. -/
def ofRequest? (r : Request) : Option GenerationConfig :=
  if r.hasGenerationParameters then some ⟨r.maxTokens?, r.temperature?, r.topP?, r.stop?⟩ else none

def toJson (g : GenerationConfig) : Json := Json.object
  (Json.optional "maxOutputTokens" (g.maxOutputTokens.map Json.ofUInt32)
    ++ Json.optional "temperature" (g.temperature.map Json.ofDouble)
    ++ Json.optional "topP" (g.topP.map Json.ofDouble)
    ++ Json.optional "stopSequences" (g.stopSequences.map Request.textsToJson))

end GenerationConfig

structure Payload where
  contents : List Content
  /-- The system's texts, one part each. -/
  systemTexts : List String
  generationConfig : Option GenerationConfig
  functions : Option (List FunctionDeclaration)
  deriving Repr, BEq

namespace Payload

def make (t : Transcript) (r : Request) : Payload :=
  { contents := Gemini.contents t
    systemTexts := r.instructions?.toList ++ t.systemTexts
    generationConfig := GenerationConfig.ofRequest? r
    functions := r.toolsAs? FunctionDeclaration.ofDefinition }

/-- The system's texts as a content without a role, if there are any. -/
def systemInstruction : List String → Option Json
  | [] => none
  | texts => some (Json.object [("parts", .arr (texts.map fun s => (Part.text s).toJson))])

def toJson (p : Payload) : Json := Json.object
  ([("contents", .arr (p.contents.map Content.toJson))]
    ++ Json.optional "systemInstruction" (systemInstruction p.systemTexts)
    ++ Json.optional "generationConfig" (p.generationConfig.map GenerationConfig.toJson)
    ++ Json.optional "tools" (p.functions.map fun l =>
      .arr [Json.object [("functionDeclarations", .arr (l.map FunctionDeclaration.toJson))]]))

end Payload
end ChatRelay.Gemini
