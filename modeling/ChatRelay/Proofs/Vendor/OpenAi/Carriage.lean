import ChatRelay.Proofs.Vendor.Reading
import ChatRelay.Vendor.OpenAi.Payload

/-!
# What OpenAI is told

Utterances only ever add to the end of the messages, be it a new message or a call of the last one.
So the texts, calls and results that are read back from a payload to OpenAI are those of the
transcript in its order, and the system's texts stand among them in theirs.
-/
namespace ChatRelay.OpenAi

/-- A call makes a new message, or is added to the last one if that is the assistant's. -/
theorem attach_cases (ms : List Message) (c : ToolCall) :
    attach ms c = ms ++ [.assistant none [c]] ∨
      ∃ init text calls, ms = init ++ [.assistant text calls] ∧
        attach ms c = init ++ [.assistant text (calls ++ [c])] := by
  match ms with
  | [] => exact .inl rfl
  | [last] =>
    cases last with
    | assistant text calls => exact .inr ⟨[], text, calls, rfl, rfl⟩
    | system text => exact .inl rfl
    | user text => exact .inl rfl
    | tool callId text => exact .inl rfl
  | m :: m' :: rest =>
    rcases attach_cases (m' :: rest) c with new | ⟨init, text, calls, split, added⟩
    · exact .inl (by rw [attach, new]; rfl)
    · exact .inr ⟨m :: init, text, calls, by rw [split]; rfl, by rw [attach, added]; rfl⟩

theorem attach_assistant (init : List Message) (text : Option String) (calls : List ToolCall)
    (c : ToolCall) :
    attach (init ++ [.assistant text calls]) c = init ++ [.assistant text (calls ++ [c])] := by
  induction init with
  | nil => rfl
  | cons m rest ih =>
    cases rest with
    | nil => rw [List.singleton_append, attach, attach, List.singleton_append]
    | cons m' rest => rw [List.cons_append, List.cons_append, attach, ← List.cons_append, ih]; rfl

/-- What is read of messages one by one, a call at the end of a message counting like one in a
message of its own. -/
def Additive {α : Type} (read : Message → List α) : Prop :=
  ∀ text calls c,
    read (.assistant text (calls ++ [c])) =
      read (.assistant text calls) ++ read (.assistant none [c])

/-- What is read of messages one by one grows by what the next utterance says, attached or not. -/
theorem Additive.push {α : Type} {read : Message → List α} (additive : Additive read)
    (ms : List Message) (u : Utterance) :
    (push ms u).flatMap read = ms.flatMap read ++ (push [] u).flatMap read := by
  have single (m : Message) : (ms ++ [m]).flatMap read = ms.flatMap read ++ [m].flatMap read :=
    List.flatMap_append
  cases u with
  | system text => exact single _
  | said speaker text => cases speaker <;> exact single _
  | call id name arguments =>
    rw [OpenAi.push, OpenAi.push]
    rcases attach_cases ms ⟨id, name, Arguments.text arguments⟩ with
      new | ⟨init, text, calls, split, added⟩
    · rw [new]
      exact single _
    · rw [added, split]
      simp [attach, additive text calls]
  | result id name output => exact single _

/-- What is read of the messages of a transcript is read of its utterances one by one. -/
theorem Additive.messages {α : Type} {read : Message → List α} (additive : Additive read)
    (start : List Message) (t : Transcript) :
    (messages start t).flatMap read =
      start.flatMap read ++ t.flatMap fun u => (OpenAi.push [] u).flatMap read := by
  unfold OpenAi.messages
  induction t generalizing start with
  | nil => simp
  | cons u rest ih =>
    rw [List.foldl_cons, ih, additive.push, List.flatMap_cons, List.append_assoc]

/-- The system's texts in a message. -/
def sentSystemOf (m : Json) : List String :=
  match m.textAt? "role" with
  | some "system" => (m.textAt? "content").toList
  | _ => []

/-- The texts in a message that are not the system's, and whose they are. -/
def sentTextsOf (m : Json) : List (Speaker × String) :=
  match m.textAt? "role" with
  | some "assistant" => (m.textAt? "content").toList.map (Prod.mk .model)
  | some "user" => (m.textAt? "content").toList.map (Prod.mk .client)
  | _ => []

/-- The id and the name of a call. -/
def sentCall? (c : Json) : Option (String × String) := do
  return (← c.textAt? "id", ← (← c.get? "function").textAt? "name")

def sentCallsOf (m : Json) : List (String × String) :=
  (m.elementsAt "tool_calls").filterMap sentCall?

/-- The result in a message with the id of its call. -/
def sentResultsOf (m : Json) : List (String × String) :=
  match m.textAt? "role", m.textAt? "tool_call_id", m.textAt? "content" with
  | some "tool", some id, some text => [(id, text)]
  | _, _, _ => []

def sentSystem (body : Json) : List String := (body.elementsAt "messages").flatMap sentSystemOf

def sentTexts (body : Json) : List (Speaker × String) :=
  (body.elementsAt "messages").flatMap sentTextsOf

def sentCalls (body : Json) : List (String × String) :=
  (body.elementsAt "messages").flatMap sentCallsOf

def sentResults (body : Json) : List (String × String) :=
  (body.elementsAt "messages").flatMap sentResultsOf

theorem sentCall?_toJson (c : ToolCall) : sentCall? c.toJson = some (c.id, c.name) := by
  simp [sentCall?, ToolCall.toJson, Json.textAt?, Json.get?_object, List.lookup_cons,
    Json.asString?]

/-- What stands in a message of the assistant. -/
theorem assistant_toJson (text : Option String) (calls : List ToolCall) :
    (Message.assistant text calls).toJson.textAt? "role" = some "assistant" ∧
      (Message.assistant text calls).toJson.textAt? "content" = text ∧
      (Message.assistant text calls).toJson.elementsAt "tool_calls" =
        calls.map ToolCall.toJson := by
  unfold Message.toJson Json.textAt? Json.elementsAt
  simp only [Json.get?_object]
  cases calls with
  | nil =>
    cases text <;>
      simp [Json.optional, List.lookup_cons, Json.asString?]
  | cons c rest =>
    cases text <;>
      simp [Json.optional, List.lookup_cons, Json.asString?, Json.elements]

theorem sentSystemOf_toJson (m : Message) :
    sentSystemOf m.toJson = match m with | .system text => [text] | _ => [] := by
  cases m with
  | assistant text calls => simp [sentSystemOf, assistant_toJson]
  | _ =>
    simp [sentSystemOf, Message.toJson, Json.textAt?, Json.get?_object, List.lookup_cons,
      Json.asString?]

theorem sentTextsOf_toJson (m : Message) :
    sentTextsOf m.toJson =
      match m with
      | .user text => [(.client, text)]
      | .assistant text _ => text.toList.map (Prod.mk .model)
      | _ => [] := by
  cases m with
  | assistant text calls => simp [sentTextsOf, assistant_toJson]
  | _ =>
    simp [sentTextsOf, Message.toJson, Json.textAt?, Json.get?_object, List.lookup_cons,
      Json.asString?]

theorem sentCallsOf_toJson (m : Message) :
    sentCallsOf m.toJson =
      match m with
      | .assistant _ calls => calls.map fun c => (c.id, c.name)
      | _ => [] := by
  cases m with
  | assistant text calls =>
    simp [sentCallsOf, assistant_toJson, List.filterMap_map, sentCall?_toJson]
  | _ =>
    simp [sentCallsOf, Message.toJson, Json.elementsAt, Json.get?_object, List.lookup_cons]

theorem sentResultsOf_toJson (m : Message) :
    sentResultsOf m.toJson = match m with | .tool id text => [(id, text)] | _ => [] := by
  cases m with
  | assistant text calls => simp [sentResultsOf, assistant_toJson]
  | _ =>
    simp [sentResultsOf, Message.toJson, Json.textAt?, Json.get?_object, List.lookup_cons,
      Json.asString?]

theorem get?_messages (p : Payload) :
    p.toJson.get? "messages" = some (.arr (p.messages.map Message.toJson)) := by
  simp [Payload.toJson, Json.get?_object, List.lookup_append, Json.lookup_optional_of_ne]

/-- What is read of the messages of a payload is what the instructions and the utterances tell. -/
theorem flatMap_messages {α : Type} {read : Json → List α} {g : Utterance → Option α}
    (additive : Additive fun m => read m.toJson)
    (agrees : ∀ u, ((push [] u).flatMap fun m => read m.toJson) = (g u).toList)
    (configured : Option String) (t : Transcript) (r : Request) :
    ((Payload.make configured t r).toJson.elementsAt "messages").flatMap read =
      (r.instructions?.toList.flatMap fun text => read (Message.system text).toJson)
        ++ t.filterMap g := by
  rw [Json.elementsAt_of_get? (get?_messages _), List.flatMap_map, Payload.make, additive.messages,
    List.flatMap_map, List.filterMap_eq_flatMap_toList]
  exact congrArg _ (List.flatMap_congr fun u _ => agrees u)

variable (configured : Option String) (t : Transcript) (r : Request)

theorem sentSystem_make :
    sentSystem (Payload.make configured t r).toJson =
      r.instructions?.toList ++ t.systemTexts := by
  have additive : Additive fun m => sentSystemOf m.toJson := by
    intro text calls c
    simp only [sentSystemOf_toJson, List.append_nil]
  have agrees (u : Utterance) :
      ((push [] u).flatMap fun m => sentSystemOf m.toJson) = (u.system?).toList := by
    rcases u with text | ⟨_ | _, text⟩ | ⟨id, name, arguments⟩ | ⟨id, name, output⟩ <;>
      simp [push, attach, sentSystemOf_toJson, Utterance.system?]
  rw [Transcript.systemTexts_eq, sentSystem, flatMap_messages additive agrees]
  simp [sentSystemOf_toJson]

theorem sentTexts_make :
    sentTexts (Payload.make configured t r).toJson = t.filterMap Utterance.said? := by
  have additive : Additive fun m => sentTextsOf m.toJson := by
    intro text calls c
    simp only [sentTextsOf_toJson, Option.toList_none, List.map_nil, List.append_nil]
  have agrees (u : Utterance) :
      ((push [] u).flatMap fun m => sentTextsOf m.toJson) = (u.said?).toList := by
    rcases u with text | ⟨_ | _, text⟩ | ⟨id, name, arguments⟩ | ⟨id, name, output⟩ <;>
      simp [push, attach, sentTextsOf_toJson, Utterance.said?]
  rw [sentTexts, flatMap_messages additive agrees]
  simp [sentTextsOf_toJson]

theorem sentCalls_make :
    sentCalls (Payload.make configured t r).toJson =
      (t.filterMap Utterance.call?).map fun c => (c.id, c.name) := by
  have additive : Additive fun m => sentCallsOf m.toJson := by
    intro text calls c
    simp only [sentCallsOf_toJson, List.map_append]
  have agrees (u : Utterance) :
      ((push [] u).flatMap fun m => sentCallsOf m.toJson) =
        (u.call?.map fun c => (c.id, c.name)).toList := by
    rcases u with text | ⟨_ | _, text⟩ | ⟨id, name, arguments⟩ | ⟨id, name, output⟩ <;>
      simp [push, attach, sentCallsOf_toJson, Utterance.call?]
  rw [List.map_filterMap, sentCalls, flatMap_messages additive agrees]
  simp [sentCallsOf_toJson]

theorem sentResults_make :
    sentResults (Payload.make configured t r).toJson = t.filterMap Utterance.result? := by
  have additive : Additive fun m => sentResultsOf m.toJson := by
    intro text calls c
    simp only [sentResultsOf_toJson, List.append_nil]
  have agrees (u : Utterance) :
      ((push [] u).flatMap fun m => sentResultsOf m.toJson) = (u.result?).toList := by
    rcases u with text | ⟨_ | _, text⟩ | ⟨id, name, arguments⟩ | ⟨id, name, output⟩ <;>
      simp [push, attach, sentResultsOf_toJson, Utterance.result?]
  rw [sentResults, flatMap_messages additive agrees]
  simp [sentResultsOf_toJson]

end ChatRelay.OpenAi
