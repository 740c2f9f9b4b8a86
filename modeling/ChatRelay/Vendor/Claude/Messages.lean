import ChatRelay.Transcript.Basic

/-!
# Claude messages

Claude knows two roles and takes lists of blocks. Utterances of one role that follow each other
share a message, in which tool results stand before all other blocks. The system's texts are not
among the messages.
-/
namespace ChatRelay.Claude

inductive Role where
  | user | assistant
  deriving DecidableEq, Repr

def Role.name : Role → String
  | .user => "user"
  | .assistant => "assistant"

inductive Block where
  | text (text : String)
  | toolUse (id name : String) (input : Json.Members)
  | toolResult (id content : String)
  deriving Repr, BEq

namespace Block

def isToolResult : Block → Bool
  | .toolResult _ _ => true
  | _ => false

def toJson : Block → Json
  | .text t => Json.object [("type", .str "text"), ("text", .str t)]
  | .toolUse id name input =>
    Json.object [("type", .str "tool_use"), ("id", .str id), ("name", .str name),
      ("input", .obj input)]
  | .toolResult id content =>
    Json.object [("type", .str "tool_result"), ("tool_use_id", .str id),
      ("content", .str content)]

end Block

structure Message where
  role : Role
  content : List Block
  deriving Repr, BEq

namespace Message

/-- Adds a block to a message: a tool result after those already there, anything else last. -/
def add (m : Message) (b : Block) : Message :=
  if b.isToolResult then
    { m with
      content := m.content.takeWhile Block.isToolResult
        ++ b :: m.content.dropWhile Block.isToolResult }
  else { m with content := m.content ++ [b] }

def toJson (m : Message) : Json :=
  Json.object [("role", .str m.role.name), ("content", .arr (m.content.map Block.toJson))]

end Message

/-- The block of an utterance and the role it is sent under; the system has neither. -/
def block? : Utterance → Option (Role × Block)
  | .system _ => none
  | .said .model text => some (.assistant, .text text)
  | .said .client text => some (.user, .text text)
  | .call id name arguments => some (.assistant, .toolUse id name (Arguments.members arguments))
  | .result id _ output => some (.user, .toolResult id (Output.text output))

/-- Adds a block to the messages, in a new message unless the last one has the block's role. -/
def push : List Message → Role × Block → List Message
  | [], (role, b) => [⟨role, [b]⟩]
  | [last], (role, b) => if last.role = role then [last.add b] else [last, ⟨role, [b]⟩]
  | m :: m' :: rest, b => m :: push (m' :: rest) b

def messages (t : Transcript) : List Message := (t.filterMap block?).foldl push []

end ChatRelay.Claude
