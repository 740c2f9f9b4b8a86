import ChatRelay.Reply.Counts
import ChatRelay.Reply.Field
import ChatRelay.Reply.FinishSignal
import ChatRelay.Vendor.Basic

/-!
# Claude replies

A reply of Claude is a list of blocks, of which texts and tool uses become items.
-/
namespace ChatRelay.Claude.Reply

open ChatRelay.Reply

def countPaths : CountPaths :=
  { prompt := ["input_tokens"]
    completion := ["output_tokens"]
    cacheCreation := some ["cache_creation_input_tokens"]
    cacheRead := some ["cache_read_input_tokens"] }

/-- The item of a block: a text that is not empty, or a call. -/
def blockItem? (block : Json) : Option Item :=
  match stringOrEmpty block "type" with
  | "text" => ((string? block "text").filter fun s => s ≠ "").map Item.ofModelText
  | "tool_use" =>
    some (.call ⟨stringOrEmpty block "name", (field? block "input").getD (.obj []),
      string? block "id"⟩)
  | _ => none

def blockEvents (block : Json) : List Event :=
  stringEvents block "type" ++
    match stringOrEmpty block "type" with
    | "text" => stringEvents block "text"
    | "tool_use" => stringEvents block "name" ++ stringEvents block "id"
    | kind => [.blockSkipped kind]

/-- Why the model stopped; an error comes before everything else. -/
def signal (body : Json) : Option String :=
  if carriesError body then some "error" else string? body "stop_reason"

def response (configured : Option String) (freshId session : String) (body : Json) : Response :=
  { id := (string? body "id").getD freshId
    model := Response.modelName (string? body "model") configured
    output := (elements body "content").filterMap blockItem?
    status := FinishSignal.status (signal body)
    session := session
    usage := countPaths.usage (field? body "usage") }

def events (body : Json) : List Event :=
  arrayEvents body "content" ++ (elements body "content").flatMap blockEvents
    ++ errorEvents Vendor.claude.name body
    ++ (if carriesError body then [] else stringEvents body "stop_reason")
    ++ stringEvents body "id" ++ stringEvents body "model"
    ++ FinishSignal.events (signal body) (!(elements body "content").isEmpty)
    ++ countPaths.events (field? body "usage")

end ChatRelay.Claude.Reply
