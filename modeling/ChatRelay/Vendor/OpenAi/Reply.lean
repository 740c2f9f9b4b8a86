import ChatRelay.Reply.Counts
import ChatRelay.Reply.Field
import ChatRelay.Reply.FinishSignal
import ChatRelay.Transcript.Basic
import ChatRelay.Vendor.Basic

/-!
# OpenAI replies

Only the first choice of a reply counts. Its content may have any shape that an item's content may
have; its calls keep their arguments as the vendor wrote them.
-/
namespace ChatRelay.OpenAi.Reply

open ChatRelay.Reply

def countPaths : CountPaths :=
  { prompt := ["prompt_tokens"]
    completion := ["completion_tokens"]
    cacheCreation := none
    cacheRead := some ["prompt_tokens_details", "cached_tokens"] }

/-- The item of a call that has a function. -/
def callItem? (call : Json) : Option Item :=
  (object? call "function").map fun function =>
    .call ⟨stringOrEmpty function "name", (field? function "arguments").getD .null,
      string? call "id"⟩

def callEvents (call : Json) : List Event :=
  objectEvents call "function" ++
    match object? call "function" with
    | some function => stringEvents function "name" ++ stringEvents call "id"
    | none => []

/-- The text item of a message, unless its content has no text. -/
def textItem? (message : Json) : Option Item :=
  (((field? message "content").map fun v => (Content.ofJson v).plainText).filter
    fun s => s ≠ "").map Item.ofModelText

def messageItems (message : Json) : List Item :=
  (textItem? message).toList ++ (elements message "tool_calls").filterMap callItem?

def messageEvents (message : Json) : List Event :=
  ((field? message "content").map fun v => Transcript.contentEvents (Content.ofJson v)).getD []
    ++ arrayEvents message "tool_calls" ++ (elements message "tool_calls").flatMap callEvents

def firstChoice? (body : Json) : Option Json := (elements body "choices").head?

def message? (body : Json) : Option Json :=
  (firstChoice? body).bind fun choice => object? choice "message"

/-- Why the model stopped; an error comes before everything else. -/
def signal (body : Json) : Option String :=
  if carriesError body then some "error"
  else (firstChoice? body).bind fun choice => string? choice "finish_reason"

def response (configured : Option String) (freshId session : String) (body : Json) : Response :=
  { id := (string? body "id").getD freshId
    model := Response.modelName (string? body "model") configured
    output := ((message? body).map messageItems).getD []
    status := FinishSignal.status (signal body)
    session := session
    usage := countPaths.usage (field? body "usage") }

def choiceEvents (choice : Json) : List Event :=
  objectEvents choice "message"
    ++ ((object? choice "message").map messageEvents).getD []
    ++ stringEvents choice "finish_reason"

def events (body : Json) : List Event :=
  arrayEvents body "choices" ++ ((firstChoice? body).map choiceEvents).getD []
    ++ errorEvents Vendor.openai.name body
    ++ stringEvents body "id" ++ stringEvents body "model"
    ++ FinishSignal.events (signal body) (!(elements body "choices").isEmpty)
    ++ countPaths.events (field? body "usage")

end ChatRelay.OpenAi.Reply
