import ChatRelay.Conversation.Item
import ChatRelay.Conversation.Usage

/-!
# Responses

The outcome of one turn, the same for every vendor.
-/
namespace ChatRelay

open Json (Reader Document DecodeFault)
open Json.Reader (RecordField)

/-- Whether the vendor finished normally. -/
inductive Status where
  | completed | failed
  deriving DecidableEq, Repr

namespace Status

def name : Status → String
  | .completed => "completed"
  | .failed => "failed"

def toJson (s : Status) : Json := .str s.name

def ofName : String → Except DecodeFault Status
  | "completed" => .ok .completed
  | "failed" => .ok .failed
  | s => .error (.unknownVariant s "`completed` or `failed`")

/-- What stands under the name of a status has to be null. -/
def readEmpty (d : Document) : Except DecodeFault Unit :=
  match d.expose with
  | .null => .ok ()
  | _ => Reader.mismatch d "unit"

/-- What stands where the name of a status should be. -/
def readMisplaced {α : Type} (d : Document) : Except DecodeFault α :=
  Reader.mismatch d "variant identifier"

/-- A status is its name, or an object with this name as its only key. A text with anything else is
malformed, and so is one that ends in a word. -/
def reader : Reader Status := fun p d =>
  match d.expose with
  | .str s => do ofName (← Reader.liftText s.read)
  | .obj [] ending =>
    match p.origin, ending with
    | .text, some f => .error (.text f)
    | .text, none => .error (.text .malformed)
    | _, _ => .error (.invalidValue .map "map with a single key")
  | .obj ((_, .misplaced d) :: _) _ => do
    let _ ← p.enter
    readMisplaced d
  | .obj ((key, inner) :: more) ending => do
    let _ ← p.enter
    let name ← Reader.liftText key.read
    match p.origin, more with
    | .text, _ =>
      let status ← ofName name
      readEmpty inner
      Reader.liftText (Document.finish (if more.isEmpty then ending else some .malformed) status)
    | _, [] =>
      let status ← ofName name
      readEmpty inner
      return status
    | _, _ :: _ => .error (.invalidValue .map "map with a single key")
  | .absent => .error (.text .truncated)
  | _ =>
    match p.origin with
    | .text => .error (.text .malformed)
    | _ => Reader.mismatch d "string or map"

end Status

structure Response where
  id : String
  model : String
  /-- What the model said, in the vendor's order. -/
  output : List Item
  status : Status
  /-- The session that the response belongs to. -/
  session : String
  usage : Usage
  deriving Repr, BEq

namespace Response

def empty : Response := ⟨"", "", [], .completed, "", .zero⟩

def fields : List (RecordField Response) := [
  .make "id" true Reader.string fun r s => { r with id := s },
  .make "model" true Reader.string fun r s => { r with model := s },
  .make "output" false (Reader.list Item.reader) fun r l => { r with output := l },
  .make "status" true Status.reader fun r s => { r with status := s },
  .make "previous_response_id" true Reader.string fun r s => { r with session := s },
  .make "usage" true Usage.reader fun r u => { r with usage := u }]

def reader : Reader Response := Reader.record "struct ConversationResponse" fields empty

def toJson (r : Response) : Json := Json.object [
  ("id", .str r.id), ("model", .str r.model), ("output", .arr (r.output.map Item.toJson)),
  ("status", r.status.toJson), ("previous_response_id", .str r.session),
  ("usage", r.usage.toJson)]

end Response
end ChatRelay
