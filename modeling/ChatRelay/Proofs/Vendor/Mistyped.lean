import ChatRelay.Proofs.Reply.Shape
import ChatRelay.Proofs.Vendor.ReplyId

/-!
# Members of a reply that are of no use

The shapes say which keys of a reply each vendor's reader navigates, and of which kinds it can use
the values. A reply with a member that is null or of another kind means what it means without the
member: the output, the status, the model and the usage are the same, and so is the id if the vendor
gave one.
-/
namespace ChatRelay

open Reply

namespace Claude.Reply

def blockFields : List (String × Shape) :=
  [("type", .text), ("text", .text), ("name", .text), ("input", .any), ("id", .text)]

def usageFields : List (String × Shape) :=
  [("input_tokens", .count), ("output_tokens", .count), ("cache_creation_input_tokens", .count),
    ("cache_read_input_tokens", .count)]

def bodyFields : List (String × Shape) :=
  [("id", .text), ("model", .text), ("content", .list (.record blockFields)),
    ("stop_reason", .text), ("usage", .record usageFields), ("error", .any)]

theorem counts_usageFields : Counts (.record usageFields) countPaths where
  prompt := .under rfl .here
  completion := .under rfl .here
  cacheCreation _ given := by cases given; exact .under rfl .here
  cacheRead _ given := by cases given; exact .under rfl .here

theorem blind_blockItem? : Blind (.record blockFields) blockItem? := by
  intro v v' omits
  unfold blockItem?
  rw [omits.stringOrEmpty_eq "type" rfl, omits.string?_eq "text" rfl,
    omits.stringOrEmpty_eq "name" rfl, omits.field?_eq "input" rfl, omits.string?_eq "id" rfl]

theorem blind_response (configured : Option String) (freshId session : String) :
    Blind (.record bodyFields) (response configured freshId session) := by
  intro v v' omits
  unfold response signal carriesError
  rw [omits.string?_eq "id" rfl, omits.string?_eq "model" rfl,
    omits.filterMap_elements "content" rfl blind_blockItem?, omits.field?_eq "error" rfl,
    omits.string?_eq "stop_reason" rfl, omits.usage_eq "usage" rfl counts_usageFields]

end Claude.Reply

namespace OpenAi.Reply

def callFields : List (String × Shape) :=
  [("id", .text), ("function", .record [("name", .text), ("arguments", .any)])]

/-- The content of a message is a text or a list of blocks. -/
def messageFields : List (String × Shape) :=
  [("content", .scalar [.string, .array]), ("tool_calls", .list (.record callFields))]

def choiceFields : List (String × Shape) :=
  [("message", .record messageFields), ("finish_reason", .text)]

def usageFields : List (String × Shape) :=
  [("prompt_tokens", .count), ("completion_tokens", .count),
    ("prompt_tokens_details", .record [("cached_tokens", .count)])]

def bodyFields : List (String × Shape) :=
  [("id", .text), ("model", .text), ("choices", .list (.record choiceFields)),
    ("usage", .record usageFields), ("error", .any)]

theorem counts_usageFields : Counts (.record usageFields) countPaths where
  prompt := .under rfl .here
  completion := .under rfl .here
  cacheCreation _ given := by cases given
  cacheRead _ given := by cases given; exact .under rfl (.under rfl .here)

theorem blind_callItem? : Blind (.record callFields) callItem? := by
  intro v v' omits
  unfold callItem?
  rw [omits.string?_eq "id" rfl]
  refine omits.map_object? "function" rfl fun function function' within => ?_
  rw [within.stringOrEmpty_eq "name" rfl, within.field?_eq "arguments" rfl]

/-- The text of content, unless it has none. -/
def contentText? (content : Json) : Option String :=
  (some (Content.ofJson content).plainText).filter fun s => s ≠ ""

/-- Content that is neither a text nor a list of blocks has no text. -/
theorem contentText?_of_useless {content : Json} (useless : content.kind ∉ [.string, .array]) :
    contentText? content = none := by
  cases content with
  | str s => exact absurd List.mem_cons_self useless
  | arr elems => exact absurd (List.mem_cons_of_mem _ List.mem_cons_self) useless
  | _ => rfl

theorem textItem?_eq (message : Json) :
    textItem? message = ((message.get? "content").bind contentText?).map Item.ofModelText := by
  unfold textItem? field?
  cases message.get? "content" with
  | none => rfl
  | some content => cases content <;> rfl

theorem blind_textItem? : Blind (.record messageFields) textItem? := by
  intro v v' omits
  have text : Blind (.record messageFields) fun v => (v.get? "content").bind contentText? :=
    Blind.scalar_member rfl fun _ => contentText?_of_useless
  rw [textItem?_eq, textItem?_eq]
  exact congrArg (Option.map Item.ofModelText) (text v v' omits)

theorem blind_messageItems : Blind (.record messageFields) messageItems := by
  intro v v' omits
  unfold messageItems
  rw [blind_textItem? v v' omits, omits.filterMap_elements "tool_calls" rfl blind_callItem?]

theorem blind_response (configured : Option String) (freshId session : String) :
    Blind (.record bodyFields) (response configured freshId session) := by
  intro v v' omits
  have output : (message? v').map messageItems = (message? v).map messageItems := by
    have blind : Blind (.record choiceFields) fun choice =>
        (object? choice "message").map messageItems :=
      fun _ _ within => within.map_object? "message" rfl blind_messageItems
    have same := omits.bind_head?_elements "choices" rfl blind
    simpa only [message?, firstChoice?, Option.map_bind, Function.comp_def] using same
  have finish : ((firstChoice? v').bind fun choice => string? choice "finish_reason") =
      (firstChoice? v).bind fun choice => string? choice "finish_reason" :=
    omits.bind_head?_elements "choices" rfl fun _ _ within => within.string?_eq "finish_reason" rfl
  unfold response signal carriesError
  rw [omits.string?_eq "id" rfl, omits.string?_eq "model" rfl, output,
    omits.field?_eq "error" rfl, finish, omits.usage_eq "usage" rfl counts_usageFields]

end OpenAi.Reply

namespace Gemini.Reply

def partFields : List (String × Shape) :=
  [("functionCall", .record [("name", .text), ("args", .any), ("id", .text)]), ("thought", .flag),
    ("text", .text)]

def candidateFields : List (String × Shape) :=
  [("content", .record [("parts", .list (.record partFields))]), ("finishReason", .text)]

def usageFields : List (String × Shape) :=
  [("promptTokenCount", .count), ("candidatesTokenCount", .count),
    ("cachedContentTokenCount", .count)]

def bodyFields : List (String × Shape) :=
  [("responseId", .text), ("modelVersion", .text), ("candidates", .list (.record candidateFields)),
    ("promptFeedback", .record [("blockReason", .text)]), ("usageMetadata", .record usageFields),
    ("error", .any)]

theorem counts_usageFields : Counts (.record usageFields) countPaths where
  prompt := .under rfl .here
  completion := .under rfl .here
  cacheCreation _ given := by cases given
  cacheRead _ given := by cases given; exact .under rfl .here

def flag? : Json → Option Bool
  | .bool b => some b
  | _ => none

theorem isThought_eq (part : Json) :
    isThought part = ((part.get? "thought").bind flag?).getD false := by
  unfold isThought
  cases part.get? "thought" with
  | none => rfl
  | some v => cases v <;> rfl

theorem blind_isThought : Blind (.record partFields) isThought := by
  intro v v' omits
  have unread (u : Json) (useless : u.kind ∉ [.bool]) : flag? u = none := by
    cases u with
    | bool b => exact absurd List.mem_cons_self useless
    | _ => rfl
  have flag : Blind (.record partFields) fun v => (v.get? "thought").bind flag? :=
    Blind.scalar_member rfl unread
  rw [isThought_eq, isThought_eq]
  exact congrArg (·.getD false) (flag v v' omits)

def callItem (call : Json) : Item :=
  .call ⟨stringOrEmpty call "name", (field? call "args").getD (.obj []), string? call "id"⟩

/-- A part is its call if it has one, and else its text. -/
theorem partItem?_eq (part : Json) :
    partItem? part = ((object? part "functionCall").map callItem).or
      (if isThought part then none
        else ((string? part "text").filter fun s => s ≠ "").map Item.ofModelText) := by
  unfold partItem?
  cases object? part "functionCall" <;> rfl

theorem blind_partItem? : Blind (.record partFields) partItem? := by
  intro v v' omits
  have call : (object? v' "functionCall").map callItem = (object? v "functionCall").map callItem :=
    omits.map_object? "functionCall" rfl fun _ _ within => by
      unfold callItem
      rw [within.stringOrEmpty_eq "name" rfl, within.field?_eq "args" rfl,
        within.string?_eq "id" rfl]
  rw [partItem?_eq, partItem?_eq, call, blind_isThought v v' omits, omits.string?_eq "text" rfl]

def candidateItems (candidate : Json) : List Item := (parts candidate).filterMap partItem?

theorem blind_candidateItems : Blind (.record candidateFields) candidateItems := by
  intro v v' omits
  have items (candidate : Json) : candidateItems candidate =
      ((object? candidate "content").map fun content =>
        (elements content "parts").filterMap partItem?).getD [] := by
    unfold candidateItems parts
    cases object? candidate "content" <;> rfl
  rw [items, items, omits.map_object? "content" rfl fun _ _ within =>
    within.filterMap_elements "parts" rfl blind_partItem?]

/-- A prompt is as blocked as before. -/
theorem blind_blocked? : Blind (.record bodyFields) blocked? := by
  intro v v' omits
  have reason : blockReason? v' = blockReason? v := by
    have same := omits.map_object? "promptFeedback" rfl fun _ _ within =>
      within.string?_eq "blockReason" rfl
    simpa only [blockReason?, Option.bind_map, Function.id_comp] using congrArg (·.bind id) same
  unfold blocked?
  rw [omits.isEmpty_elements "candidates" rfl, reason]

theorem blind_response (configured : Option String) (freshId session : String) :
    Blind (.record bodyFields) (response configured freshId session) := by
  intro v v' omits
  have output : (((firstCandidate? v').map parts).getD []).filterMap partItem? =
      (((firstCandidate? v).map parts).getD []).filterMap partItem? := by
    have items (body : Json) : (((firstCandidate? body).map parts).getD []).filterMap partItem? =
        ((firstCandidate? body).bind fun candidate => some (candidateItems candidate)).getD [] := by
      cases firstCandidate? body <;> rfl
    have same := omits.bind_head?_elements "candidates" rfl fun _ _ within =>
      congrArg some (blind_candidateItems _ _ within)
    rw [items, items]
    exact congrArg (·.getD []) same
  have finish : ((firstCandidate? v').bind fun candidate => string? candidate "finishReason") =
      (firstCandidate? v).bind fun candidate => string? candidate "finishReason" :=
    omits.bind_head?_elements "candidates" rfl fun _ _ within =>
      within.string?_eq "finishReason" rfl
  unfold response status signal carriesError
  rw [omits.string?_eq "responseId" rfl, omits.string?_eq "modelVersion" rfl, output,
    blind_blocked? v v' omits, omits.field?_eq "error" rfl, finish,
    omits.usage_eq "usageMetadata" rfl counts_usageFields]

end Gemini.Reply

namespace Vendor

/-- What the reader of a vendor's replies looks at. -/
def replyShape : Vendor → Shape
  | .claude => .record Claude.Reply.bodyFields
  | .openai => .record OpenAi.Reply.bodyFields
  | .gemini => .record Gemini.Reply.bodyFields

end Vendor

namespace Converter

/-- No vendor's reader notices that something it cannot use is left out. -/
theorem blind_responseOfBody (c : Converter) (freshId session : String) :
    Blind c.vendor.replyShape (c.responseOfBody freshId session) := by
  unfold responseOfBody
  cases c.vendor with
  | claude => exact Claude.Reply.blind_response c.model freshId session
  | openai => exact OpenAi.Reply.blind_response c.model freshId session
  | gemini => exact Gemini.Reply.blind_response c.model freshId session

/-- A reply without a member that was of no use stands for the same response, but that each gets a
fresh id of its own if there is none from the vendor. -/
theorem responseOfBody_of_omits (c : Converter) {body body' : Json}
    (omits : Omits c.vendor.replyShape body body') (freshId freshId' session : String) :
    (c.responseOfBody freshId session body).id = (c.vendor.replyId? body).getD freshId ∧
      c.responseOfBody freshId' session body' =
        { c.responseOfBody freshId session body with
          id := (c.vendor.replyId? body).getD freshId' } :=
  ⟨c.responseOfBody_id freshId session body,
    (c.blind_responseOfBody freshId' session _ _ omits).trans
      (c.responseOfBody_freshId freshId freshId' session body)⟩

/-- A Gemini part whose call is no object is the text beside it. -/
theorem responseOfBody_of_omits_call :
    let reply (part : List (String × Json)) : Json :=
      .obj [("candidates", .arr [.obj [("content", .obj [("parts", .arr [.obj part])])]])]
    let mistyped := reply [("functionCall", .bool true), ("text", .str "hi")]
    let missing := reply [("text", .str "hi")]
    ((ofVendor .gemini).responseOfBody "first" "s" mistyped).output = [.ofModelText "hi"] ∧
      Omits (ofVendor .gemini).vendor.replyShape mistyped missing ∧
      ((ofVendor .gemini).responseOfBody "first" "s" mistyped).id = "first" ∧
      (ofVendor .gemini).responseOfBody "second" "s" missing =
        { (ofVendor .gemini).responseOfBody "first" "s" mistyped with id := "second" } := by
  intro reply mistyped missing
  have omits : Omits (ofVendor .gemini).vendor.replyShape mistyped missing := by
    have part := @Omits.member Gemini.Reply.partFields "functionCall" _
      [("functionCall", .bool true), ("text", .str "hi")] _ rfl rfl (by decide)
    have content := @Omits.inside [("parts", .list (.record Gemini.Reply.partFields))] "parts" _
      [("parts", _)] _ _ rfl rfl (@Omits.element _ [] [] _ _ part)
    have candidate := @Omits.inside Gemini.Reply.candidateFields "content" _ [("content", _)] _ _
      rfl rfl content
    exact @Omits.inside Gemini.Reply.bodyFields "candidates" _ [("candidates", _)] _ _ rfl rfl
      (@Omits.element _ [] [] _ _ candidate)
  refine ⟨rfl, omits, ?_⟩
  exact responseOfBody_of_omits (ofVendor .gemini) omits "first" "second" "s"

end Converter
end ChatRelay
