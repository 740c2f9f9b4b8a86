import ChatRelay.Vendor.Basic
import ChatRelay.Vendor.Claude.Messages

/-!
# Claude payloads

The body of a request to Claude. The system's texts are one text, joined by a blank line; the
number of tokens is always given.
-/
namespace ChatRelay.Claude

structure Tool where
  name : String
  description : Option String
  inputSchema : Json
  deriving Repr, BEq

namespace Tool

/-- The schema of a function without parameters. -/
def emptySchema : Json := Json.object [("type", .str "object"), ("properties", .obj [])]

def ofDefinition (t : ToolDefinition) : Tool :=
  ⟨t.name, t.description, t.parameters.getD emptySchema⟩

def toJson (t : Tool) : Json := Json.object
  ([("name", .str t.name), ("input_schema", t.inputSchema)]
    ++ Json.optional "description" (t.description.map .str))

end Tool

structure Payload where
  model : Option String
  maxTokens : UInt32
  system : Option String
  messages : List Message
  temperature : Option Double
  topP : Option Double
  stopSequences : Option (List String)
  tools : Option (List Tool)
  deriving Repr, BEq

namespace Payload

def systemText : List String → Option String
  | [] => none
  | texts => some (Text.join "\n\n" texts)

def make (configured : Option String) (budget : Budget) (t : Transcript) (r : Request) : Payload :=
  { model := r.modelOr configured
    maxTokens := r.maxTokens?.getD budget.tokens
    system := systemText (r.instructions?.toList ++ t.systemTexts)
    messages := Claude.messages t
    temperature := r.temperature?
    topP := r.topP?
    stopSequences := r.stop?
    tools := r.toolsAs? Tool.ofDefinition }

def toJson (p : Payload) : Json := Json.object
  (Json.optional "model" (p.model.map .str)
    ++ [("max_tokens", Json.ofUInt32 p.maxTokens)]
    ++ Json.optional "system" (p.system.map .str)
    ++ [("messages", .arr (p.messages.map Message.toJson))]
    ++ Json.optional "temperature" (p.temperature.map Json.ofDouble)
    ++ Json.optional "top_p" (p.topP.map Json.ofDouble)
    ++ Json.optional "stop_sequences" (p.stopSequences.map Request.textsToJson)
    ++ Json.optional "tools" (p.tools.map fun l => .arr (l.map Tool.toJson)))

end Payload
end ChatRelay.Claude
