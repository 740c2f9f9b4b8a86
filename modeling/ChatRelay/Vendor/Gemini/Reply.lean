import ChatRelay.Reply.Counts
import ChatRelay.Reply.Field
import ChatRelay.Reply.FinishSignal
import ChatRelay.Vendor.Basic

/-!
# Gemini replies

Only the first candidate of a reply counts. Its parts become items, apart from the model's thoughts.
A prompt that was blocked has no candidates and makes the response a failed one.
-/
namespace ChatRelay.Gemini.Reply

open ChatRelay.Reply

def countPaths : CountPaths :=
  { prompt := ["promptTokenCount"]
    completion := ["candidatesTokenCount"]
    cacheCreation := none
    cacheRead := some ["cachedContentTokenCount"] }

/-- Whether a part is a thought and no output. -/
def isThought (part : Json) : Bool :=
  match part.get? "thought" with
  | some (.bool b) => b
  | _ => false

/-- The item of a part: a call, or a text that is not empty. -/
def partItem? (part : Json) : Option Item :=
  match object? part "functionCall" with
  | some call =>
    some (.call ⟨stringOrEmpty call "name", (field? call "args").getD (.obj []),
      string? call "id"⟩)
  | none =>
    if isThought part then none
    else ((string? part "text").filter fun s => s ≠ "").map Item.ofModelText

def partEvents (part : Json) : List Event :=
  objectEvents part "functionCall" ++
    match object? part "functionCall" with
    | some call => stringEvents call "name" ++ stringEvents call "id"
    | none => if isThought part then [] else stringEvents part "text"

def firstCandidate? (body : Json) : Option Json := (elements body "candidates").head?

def parts (candidate : Json) : List Json :=
  ((object? candidate "content").map fun content => elements content "parts").getD []

def blockReason? (body : Json) : Option String :=
  (object? body "promptFeedback").bind fun feedback => string? feedback "blockReason"

/-- The reason why a prompt was blocked before there was any candidate. -/
def blocked? (body : Json) : Option String :=
  if (elements body "candidates").isEmpty then blockReason? body else none

/-- Why the model stopped; an error comes before everything else. -/
def signal (body : Json) : Option String :=
  if carriesError body then some "error"
  else (firstCandidate? body).bind fun candidate => string? candidate "finishReason"

def status (body : Json) : Status :=
  match blocked? body with
  | some _ => .failed
  | none => FinishSignal.status (signal body)

def response (configured : Option String) (freshId session : String) (body : Json) : Response :=
  { id := (string? body "responseId").getD freshId
    model := Response.modelName (string? body "modelVersion") configured
    output := (((firstCandidate? body).map parts).getD []).filterMap partItem?
    status := status body
    session := session
    usage := countPaths.usage (field? body "usageMetadata") }

def candidateEvents (candidate : Json) : List Event :=
  objectEvents candidate "content"
    ++ ((object? candidate "content").map fun content => arrayEvents content "parts").getD []
    ++ (parts candidate).flatMap partEvents
    ++ stringEvents candidate "finishReason"

def statusEvents (body : Json) : List Event :=
  match blocked? body with
  | some reason => [.promptBlocked Vendor.gemini.name reason]
  | none =>
    errorEvents Vendor.gemini.name body
      ++ FinishSignal.events (signal body) (!(elements body "candidates").isEmpty)

def events (body : Json) : List Event :=
  arrayEvents body "candidates" ++ ((firstCandidate? body).map candidateEvents).getD []
    ++ objectEvents body "promptFeedback"
    ++ ((object? body "promptFeedback").map fun feedback =>
      stringEvents feedback "blockReason").getD []
    ++ statusEvents body
    ++ stringEvents body "responseId" ++ stringEvents body "modelVersion"
    ++ countPaths.events (field? body "usageMetadata")

end ChatRelay.Gemini.Reply
