import ChatRelay.Event

/-!
# Fields of a vendor's reply

A reply is read leniently: a field that is missing, null or of another type than the reader wants
reads as absent. Only a field of another type is worth noting, since vendors leave fields out all
the time.
-/
namespace ChatRelay.Reply

/-- A field that is there and is not null. -/
def field? (node : Json) (key : String) : Option Json :=
  (node.get? key).filter fun v => !v.isNull

def string? (node : Json) (key : String) : Option String := (field? node key).bind Json.asString?

def stringOrEmpty (node : Json) (key : String) : String := (string? node key).getD ""

def elements (node : Json) (key : String) : List Json :=
  match field? node key with
  | some (.arr elems) => elems
  | _ => []

def object? (node : Json) (key : String) : Option Json :=
  (field? node key).filter fun v => v.kind = .object

def kindEvents (kind : Json.Kind) (node : Json) (key : String) : List Event :=
  match field? node key with
  | some v => if v.kind = kind then [] else [.malformedField key v.kind]
  | none => []

def stringEvents : Json → String → List Event := kindEvents .string

def arrayEvents : Json → String → List Event := kindEvents .array

def objectEvents : Json → String → List Event := kindEvents .object

def carriesError (body : Json) : Bool := (field? body "error").isSome

/-- The text of an error, wherever a vendor puts it. -/
def errorText (error : Json) : String :=
  (((error.get? "message").bind Json.asString?).or error.asString?).getD ""

def errorEvents (vendor : String) (body : Json) : List Event :=
  match field? body "error" with
  | some error => [.replyError vendor (errorText error)]
  | none => []

end ChatRelay.Reply
