import ChatRelay.Transcript.Basic

/-!
# OpenAI messages

Every text and every result is a message of its own, the system's among the others. Calls belong to
a message of the assistant: to the last one if it stands there, else to a new one without text.
-/
namespace ChatRelay.OpenAi

/-- A call as OpenAI wants it, its arguments as text. -/
structure ToolCall where
  id : String
  name : String
  arguments : String
  deriving DecidableEq, Repr

namespace ToolCall

def toJson (c : ToolCall) : Json := Json.object [
  ("id", .str c.id), ("type", .str "function"),
  ("function", Json.object [("name", .str c.name), ("arguments", .str c.arguments)])]

end ToolCall

/-- A message; what it may hold depends on its role. -/
inductive Message where
  | system (text : String)
  | user (text : String)
  | assistant (text : Option String) (calls : List ToolCall)
  | tool (callId text : String)
  deriving DecidableEq, Repr

namespace Message

def toJson : Message → Json
  | .system text => Json.object [("role", .str "system"), ("content", .str text)]
  | .user text => Json.object [("role", .str "user"), ("content", .str text)]
  | .assistant text calls => Json.object
    ([("role", .str "assistant")] ++ Json.optional "content" (text.map .str)
      ++ if calls.isEmpty then [] else [("tool_calls", .arr (calls.map ToolCall.toJson))])
  | .tool callId text =>
    Json.object [("role", .str "tool"), ("content", .str text), ("tool_call_id", .str callId)]

end Message

def attach : List Message → ToolCall → List Message
  | [], c => [.assistant none [c]]
  | [.assistant text calls], c => [.assistant text (calls ++ [c])]
  | [last], c => [last, .assistant none [c]]
  | m :: m' :: rest, c => m :: attach (m' :: rest) c

/-- Adds what an utterance says to the messages. -/
def push (ms : List Message) : Utterance → List Message
  | .system text => ms ++ [.system text]
  | .said .model text => ms ++ [.assistant (some text) []]
  | .said .client text => ms ++ [.user text]
  | .call id name arguments => attach ms ⟨id, name, Arguments.text arguments⟩
  | .result id _ output => ms ++ [.tool id (Output.text output)]

def messages (start : List Message) (t : Transcript) : List Message := t.foldl push start

end ChatRelay.OpenAi
