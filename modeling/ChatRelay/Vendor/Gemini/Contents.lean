import ChatRelay.Transcript.Basic

/-!
# Gemini contents

Gemini knows three roles and takes lists of parts. Utterances of one role that follow each other
share a content. The system's texts are not among the contents, and calls have no ids.
-/
namespace ChatRelay.Gemini

inductive Role where
  | user | model | function
  deriving DecidableEq, Repr

def Role.name : Role → String
  | .user => "user"
  | .model => "model"
  | .function => "function"

inductive Part where
  | text (text : String)
  | functionCall (name : String) (args : Json.Members)
  | functionResponse (name : String) (response : Json.Members)
  deriving Repr, BEq

namespace Part

def toJson : Part → Json
  | .text t => Json.object [("text", .str t)]
  | .functionCall name args => Json.object [
    ("functionCall", Json.object [("name", .str name), ("args", .obj args)])]
  | .functionResponse name response => Json.object [
    ("functionResponse", Json.object [("name", .str name), ("response", .obj response)])]

end Part

/-- The parts of one role. -/
structure Content where
  role : Role
  parts : List Part
  deriving Repr, BEq

namespace Content

def toJson (c : Content) : Json :=
  Json.object [("role", .str c.role.name), ("parts", .arr (c.parts.map Part.toJson))]

end Content

/-- The part of an utterance and the role it is sent under; the system has neither. -/
def part? : Utterance → Option (Role × Part)
  | .system _ => none
  | .said .model text => some (.model, .text text)
  | .said .client text => some (.user, .text text)
  | .call _ name arguments => some (.model, .functionCall name (Arguments.members arguments))
  | .result _ name output => some (.function, .functionResponse name (Output.members output))

/-- Adds a part to the contents, in a new content unless the last one has the part's role. -/
def push : List Content → Role × Part → List Content
  | [], (role, p) => [⟨role, [p]⟩]
  | [last], (role, p) =>
    if last.role = role then [{ last with parts := last.parts ++ [p] }] else [last, ⟨role, [p]⟩]
  | c :: c' :: rest, p => c :: push (c' :: rest) p

def contents (t : Transcript) : List Content := (t.filterMap part?).foldl push []

end ChatRelay.Gemini
