import ChatRelay.Json.Decode
import ChatRelay.Text.Blank

/-!
# Requests

A request asks for one new turn. Its parameters are sparse: zero, empty and blank ones count as
absent, and the accessors here never yield them.
-/
namespace ChatRelay

open Json (Reader)
open Json.Reader (RecordField)

/-- A function that the model may call. -/
structure ToolDefinition where
  kind : String
  name : String
  description : Option String
  parameters : Option Json
  deriving Repr, BEq

namespace ToolDefinition

def empty : ToolDefinition := ⟨"function", "", none, none⟩

def fields : List (RecordField ToolDefinition) := [
  .make "type" false Reader.string fun t s => { t with kind := s },
  .make "name" true Reader.string fun t s => { t with name := s },
  .make "description" false (Reader.optional Reader.string) fun t s => { t with description := s },
  .make "parameters" false (Reader.optional Reader.json) fun t v => { t with parameters := v }]

def reader : Reader ToolDefinition := Reader.record "struct ToolDefinition" fields empty

def toJson (t : ToolDefinition) : Json := Json.object
  ([("type", .str t.kind), ("name", .str t.name)]
    ++ Json.optional "description" (t.description.map .str)
    ++ Json.optional "parameters" t.parameters)

end ToolDefinition

/-- A request for one new turn. -/
structure Request where
  /-- The new turn as the client sent it. -/
  input : Json
  instructions : Option String
  model : Option String
  maxTokens : Option UInt32
  temperature : Option Double
  topP : Option Double
  stop : Option (List String)
  tools : List ToolDefinition
  deriving Repr, BEq

namespace Request

/-- A request with nothing but a new turn. -/
def ofInput (input : Json) : Request := ⟨input, none, none, none, none, none, none, []⟩

def fields : List (RecordField Request) := [
  .make "input" false Reader.json fun r v => { r with input := v },
  .make "instructions" false (Reader.optional Reader.string) fun r s =>
    { r with instructions := s },
  .make "model" false (Reader.optional Reader.string) fun r s => { r with model := s },
  .make "max_tokens" false (Reader.optional Reader.uint32) fun r n => { r with maxTokens := n },
  .make "temperature" false (Reader.optional Reader.double) fun r d => { r with temperature := d },
  .make "top_p" false (Reader.optional Reader.double) fun r d => { r with topP := d },
  .make "stop" false (Reader.optional (Reader.list Reader.string)) fun r l => { r with stop := l },
  .make "tools" false (Reader.list ToolDefinition.reader) fun r l => { r with tools := l }]

def reader : Reader Request := Reader.record "struct ConversationRequest" fields (ofInput .null)

def textsToJson (texts : List String) : Json := .arr (texts.map .str)

def toJson (r : Request) : Json := Json.object
  ([("input", r.input)]
    ++ Json.optional "instructions" (r.instructions.map .str)
    ++ Json.optional "model" (r.model.map .str)
    ++ Json.optional "max_tokens" (r.maxTokens.map Json.ofUInt32)
    ++ Json.optional "temperature" (r.temperature.map Json.ofDouble)
    ++ Json.optional "top_p" (r.topP.map Json.ofDouble)
    ++ Json.optional "stop" (r.stop.map textsToJson)
    ++ if r.tools.isEmpty then [] else [("tools", .arr (r.tools.map ToolDefinition.toJson))])

/-- Instructions without the blanks around them, if anything is left. -/
def instructions? (r : Request) : Option String :=
  (r.instructions.map Text.trim).filter fun s => s ≠ ""

def model? (r : Request) : Option String := r.model.filter fun s => s ≠ ""

def maxTokens? (r : Request) : Option UInt32 := r.maxTokens.filter fun n => n ≠ 0

def temperature? (r : Request) : Option Double := r.temperature.filter Double.isPositive

def topP? (r : Request) : Option Double := r.topP.filter Double.isPositive

/-- The stop texts that are not empty, if there are any. -/
def stop? (r : Request) : Option (List String) :=
  match (r.stop.getD []).filter fun s => s ≠ "" with
  | [] => none
  | s :: rest => some (s :: rest)

def hasGenerationParameters (r : Request) : Bool :=
  r.maxTokens?.isSome || r.temperature?.isSome || r.topP?.isSome || r.stop?.isSome

end Request
end ChatRelay
