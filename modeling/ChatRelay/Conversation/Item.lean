import ChatRelay.Conversation.Role
import ChatRelay.Conversation.Content

/-!
# Items

An item is one unit of a conversation. In JSON it carries its type under the key `type`, or as the
first element of an array; an item of an unknown type is kept as an item that says nothing.
-/
namespace ChatRelay

/-- A call that the model asks for. The arguments are not looked into. -/
structure FunctionCall where
  name : String
  arguments : Json
  callId : Option String
  deriving Repr, BEq

/-- What the client answers to a call. -/
structure FunctionOutput where
  callId : Option String
  name : Option String
  output : Json
  deriving Repr, BEq

/-- One unit of a conversation. -/
inductive Item where
  | message (role : Role) (content : Content)
  /-- A piece of text, of the model unless it has a role. -/
  | text (role : Option Role) (content : Content)
  | call (c : FunctionCall)
  | output (o : FunctionOutput)
  | unknown
  deriving Repr, BEq

open Json (Reader Document DecodeFault Place Token)
open Json.Reader (RecordField)

namespace FunctionCall

def empty : FunctionCall := ⟨"", .null, none⟩

def fields : List (RecordField FunctionCall) := [
  .make "name" false Reader.string fun c s => { c with name := s },
  .make "arguments" false Reader.json fun c v => { c with arguments := v },
  .make "call_id" false (Reader.optional Reader.string) fun c s => { c with callId := s }]

def reader : Reader FunctionCall := Reader.record "struct FunctionCall" fields empty

def toJson (c : FunctionCall) : Json := Json.object
  ([("name", .str c.name), ("arguments", c.arguments)]
    ++ Json.optional "call_id" (c.callId.map .str))

end FunctionCall

namespace FunctionOutput

def empty : FunctionOutput := ⟨none, none, .null⟩

def fields : List (RecordField FunctionOutput) := [
  .make "call_id" false (Reader.optional Reader.string) fun o s => { o with callId := s },
  .make "name" false (Reader.optional Reader.string) fun o s => { o with name := s },
  .make "output" false Reader.json fun o v => { o with output := v }]

def reader : Reader FunctionOutput := Reader.record "struct FunctionCallOutput" fields empty

def toJson (o : FunctionOutput) : Json := Json.object
  (Json.optional "call_id" (o.callId.map .str) ++ Json.optional "name" (o.name.map .str)
    ++ [("output", o.output)])

end FunctionOutput

namespace Item

/-- The role an item is replayed with: a text without a role is the model's, so is a call, and an
output is a tool's. -/
def effectiveRole : Item → Option Role
  | .message r _ => some r
  | .text r _ => some (r.getD .assistant)
  | .call _ => some .assistant
  | .output _ => some .tool
  | .unknown => none

def ofUserText (s : String) : Item := .message .user (.text s)

/-- A piece of the model's text. -/
def ofModelText (s : String) : Item := .text none (.text s)

inductive Kind where
  | message | text | call | output | unknown
  deriving DecidableEq, Repr

def Kind.ofName : String → Kind
  | "message" => .message
  | "text" => .text
  | "function_call" => .call
  | "function_call_output" => .output
  | _ => .unknown

def Kind.name : Kind → String
  | .message => "message"
  | .text => "text"
  | .call => "function_call"
  | .output => "function_call_output"
  | .unknown => "unknown"

def tagged (kind : Kind) (fields : List (String × Json)) : Json :=
  Json.object (("type", .str kind.name) :: fields)

def toJson : Item → Json
  | .message r c => tagged .message [("role", r.toJson), ("content", c.toJson)]
  | .text r c =>
    tagged .text (Json.optional "role" (r.map Role.toJson) ++ [("content", c.toJson)])
  | .call c => tagged .call [("content", c.toJson)]
  | .output o => tagged .output [("content", o.toJson)]
  | .unknown => tagged .unknown []

def messageFields : List (RecordField (Role × Content)) := [
  .make "role" false Role.reader fun s r => (r, s.2),
  .make "content" false Content.reader fun s c => (s.1, c)]

def textFields : List (RecordField (Option Role × Content)) := [
  .make "role" false (Reader.optional Role.reader) fun s r => (r, s.2),
  .make "content" false Content.reader fun s c => (s.1, c)]

def callFields : List (RecordField FunctionCall) := [
  .make "content" true FunctionCall.reader fun _ c => c]

def outputFields : List (RecordField FunctionOutput) := [
  .make "content" true FunctionOutput.reader fun _ o => o]

/-- The parts of an item besides its type, as they stand in an object or in an array. -/
inductive Parts where
  | members (ms : List (Token String × Document))
  | elements (ds : List Document)

/-- A record from the parts of an item, called `title` in messages. -/
def recordOfParts {σ : Type} (title : String) (fields : List (RecordField σ)) (start : σ)
    (p : Place) : Parts → Except DecodeFault σ
  | .members ms => Reader.recordOfMembers fields start p ms none
  | .elements ds =>
    Reader.recordOfElements ("struct variant Item::" ++ title) fields start p ds none

def ofParts (p : Place) (parts : Parts) : Kind → Except DecodeFault Item
  | .message => do
    let (r, c) ← recordOfParts "Message" messageFields (.user, .text "") p parts
    return .message r c
  | .text => do
    let (r, c) ← recordOfParts "Text" textFields (none, .text "") p parts
    return .text r c
  | .call => (recordOfParts "FunctionCall" callFields .empty p parts).map .call
  | .output => (recordOfParts "FunctionCallOutput" outputFields .empty p parts).map .output
  | .unknown =>
    match parts with
    | .elements (d :: ds) =>
      .error (.invalidLength (d :: ds).length (Reader.elementCount 0 ++ " in sequence"))
    | _ => .ok .unknown

def kindReader : Reader Kind := fun _ d =>
  match d.expose with
  | .str s => (Reader.liftText s.read).map Kind.ofName
  | _ => Reader.mismatch d "variant identifier"

/-- Sets the members aside until the kind is known; of the kind there may be only one. -/
def splitMembers (p : Place) :
    Option Kind → List (Token String × Document) →
      Except DecodeFault (Option Kind × List (Token String × Document))
  | kind, [] => .ok (kind, [])
  | kind, (key, d) :: rest => do
    let name ← Reader.liftText key.read
    if name = "type" then
      if kind.isSome then .error (.duplicateField "type")
      else splitMembers p (some (← kindReader p d)) rest
    else
      let _ ← Reader.json p d
      let (kind, others) ← splitMembers p kind rest
      return (kind, (key, d) :: others)

/-- Reads an item. Its other parts are set aside, and so free of faults, before they are read for
its kind. -/
def reader : Reader Item := fun p d =>
  match d.expose with
  | .obj members ending => do
    let p ← p.enter
    let (kind, others) ← splitMembers p none members
    Reader.liftText (Document.finish ending ())
    match kind with
    | some kind => ofParts p.setAside (.members others) kind
    | none => .error (.missingField "type")
  | .arr [] ending => do
    let _ ← p.enter
    Reader.liftText (Document.finish ending ())
    .error (.missingField "type")
  | .arr (d :: ds) ending => do
    let p ← p.enter
    let kind ← kindReader p d
    let _ ← ds.mapM (Reader.json p)
    Reader.liftText (Document.finish ending ())
    ofParts p.setAside (.elements ds) kind
  | _ => Reader.mismatch d "internally tagged enum Item"

end Item
end ChatRelay
