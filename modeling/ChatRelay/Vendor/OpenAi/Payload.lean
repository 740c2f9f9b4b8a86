import ChatRelay.Vendor.Basic
import ChatRelay.Vendor.OpenAi.Messages

/-!
# OpenAI payloads

The body of a request to OpenAI. Instructions are a message of the system before all others.
-/
namespace ChatRelay.OpenAi

structure Tool where
  kind : String
  name : String
  description : Option String
  parameters : Option Json
  deriving Repr, BEq

namespace Tool

def ofDefinition (t : ToolDefinition) : Tool := ⟨t.kind, t.name, t.description, t.parameters⟩

def toJson (t : Tool) : Json := Json.object [
  ("type", .str t.kind),
  ("function", Json.object ([("name", .str t.name)]
    ++ Json.optional "description" (t.description.map .str)
    ++ Json.optional "parameters" t.parameters))]

end Tool

structure Payload where
  model : Option String
  messages : List Message
  maxTokens : Option UInt32
  temperature : Option Double
  topP : Option Double
  stop : Option (List String)
  tools : Option (List Tool)
  deriving Repr, BEq

namespace Payload

def make (configured : Option String) (t : Transcript) (r : Request) : Payload :=
  { model := r.modelOr configured
    messages := OpenAi.messages (r.instructions?.toList.map .system) t
    maxTokens := r.maxTokens?
    temperature := r.temperature?
    topP := r.topP?
    stop := r.stop?
    tools := r.toolsAs? Tool.ofDefinition }

def toJson (p : Payload) : Json := Json.object
  (Json.optional "model" (p.model.map .str)
    ++ [("messages", .arr (p.messages.map Message.toJson))]
    ++ Json.optional "max_tokens" (p.maxTokens.map Json.ofUInt32)
    ++ Json.optional "temperature" (p.temperature.map Json.ofDouble)
    ++ Json.optional "top_p" (p.topP.map Json.ofDouble)
    ++ Json.optional "stop" (p.stop.map Request.textsToJson)
    ++ Json.optional "tools" (p.tools.map fun l => .arr (l.map Tool.toJson)))

end Payload
end ChatRelay.OpenAi
