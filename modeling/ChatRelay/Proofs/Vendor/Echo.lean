import ChatRelay.Proofs.Reply.Field
import ChatRelay.Proofs.Transcript.Piece
import ChatRelay.Proofs.Vendor.Claude.Grouping
import ChatRelay.Proofs.Vendor.Gemini.Grouping
import ChatRelay.Proofs.Vendor.Growth
import ChatRelay.Proofs.Vendor.OpenAi.Arrangement

/-!
# Replies sent back to their vendors

A vendor that is sent nothing but its own reply gets it as one message of the model, in which the
pieces of the reply stand in their order: texts that are not blank, and calls with their names and
arguments. A call without an id gets one by its number. A reply of which nothing is left is no
message. The pieces are read from the reply key by key, and so is the message from the payload.
-/
namespace ChatRelay

open Reply

/-- If texts of the assistant and calls stand under one role, all that pieces become does. -/
theorem placed_number {ρ : Type} {role? : Entry → Option ρ} {role : ρ}
    (texts : ∀ s, role? (.text .assistant s) = some role)
    (calls : ∀ id name arguments, role? (.call id name arguments) = some role) {k : Nat}
    {ps : List Piece} :
    placed role? (Piece.number k ps) = (Piece.number k ps).map (Prod.mk role) := by
  apply placed_eq_map
  intro e member
  rcases Piece.of_mem_number member with ⟨s, _, rfl⟩ | isCall
  · exact texts s
  · cases e with
    | call id name arguments => exact calls id name arguments
    | _ => cases isCall

namespace Claude

/-- What a block of a reply says. -/
def said? (block : Json) : Option Piece :=
  if block.textAt? "type" = some "text" then (block.textAt? "text").bind Piece.ofText?
  else if block.textAt? "type" = some "tool_use" then
    some (.call (block.filledAt? "id") ((block.textAt? "name").getD "")
      (block.valueAt "input" (.obj [])))
  else none

theorem said_blockItem? (block : Json) :
    Piece.Said (Reply.blockItem? block).toList (said? block).toList := by
  unfold Reply.blockItem? said?
  rw [← given_string?, ← stringOrEmpty_eq, ← getD_field?, stringOrEmpty_eq block "type",
    string?_eq_textAt? block "text"]
  by_cases isText : block.textAt? "type" = some "text"
  · rw [if_pos isText, isText]
    exact .ofModelText _
  by_cases isUse : block.textAt? "type" = some "tool_use"
  · rw [if_neg isText, if_pos isUse, isUse]
    exact .call _
  rw [if_neg isText, if_neg isUse]
  cases kind : block.textAt? "type" with
  | none => exact .nil
  | some kind' =>
    rw [kind] at isText isUse
    split
    · rename_i same
      exact absurd (congrArg some same) isText
    · rename_i same
      exact absurd (congrArg some same) isUse
    · exact .nil

/-- The items of a response are rendered as what its reply says. -/
theorem rendered_response (configured : Option String) (freshId session : String) (body : Json) :
    rendered (Reply.response configured freshId session body).output =
      Piece.number 0 ((body.elementsAt "content").filterMap said?) := by
  have said := Piece.Said.filterMap said_blockItem? (elements body "content")
  rw [elements_eq_elementsAt] at said
  rw [Reply.response, elements_eq_elementsAt]
  exact said.rendered_eq

/-- What pieces become is one run, without results. -/
theorem runs_number (ps : List Piece) :
    (Runs.cut (placed roleName? (Piece.number 0 ps))).map resultsFirst =
      if (Piece.number 0 ps).isEmpty then [] else [("assistant", Piece.number 0 ps)] := by
  have assistant : placed roleName? (Piece.number 0 ps) =
      (Piece.number 0 ps).map (Prod.mk "assistant") := placed_number (fun _ => rfl) fun _ _ _ => rfl
  have others : ∀ e ∈ Piece.number 0 ps, e.isResult = false := by
    intro e member
    rcases Piece.of_mem_number member with ⟨s, _, rfl⟩ | isCall
    · rfl
    · cases e <;> simp_all [Entry.isCall, Entry.isResult]
  have same : resultsFirst ("assistant", Piece.number 0 ps) =
      ("assistant", Piece.number 0 ps) := by
    rw [resultsFirst, List.filter_eq_nil_iff.2 fun e member => by simp [others e member],
      List.filter_eq_self.2 fun e member => by simp [others e member], List.nil_append]
  rw [assistant, Runs.cut_map_mk]
  split
  · rfl
  · rw [List.map_singleton, same]

end Claude

namespace Gemini

/-- What a part of a reply says that holds no call: a text, unless it is marked as a thought. -/
def saidText? (part : Json) : Option Piece :=
  match part.get? "thought" with
  | some (.bool true) => none
  | _ => (part.textAt? "text").bind Piece.ofText?

/-- What a part of a reply says. A call counts even if it is marked as a thought. -/
def said? (part : Json) : Option Piece :=
  match part.get? "functionCall" with
  | some (.obj call) =>
    some (.call ((Json.obj call).filledAt? "id") (((Json.obj call).textAt? "name").getD "")
      ((Json.obj call).valueAt "args" (.obj [])))
  | _ => saidText? part

def replyParts (body : Json) : List Json :=
  match (body.firstAt? "candidates").bind (·.get? "content") with
  | some content => content.elementsAt "parts"
  | none => []

theorem said_text (part : Json) :
    Piece.Said (if Reply.isThought part then none
      else ((string? part "text").filter fun s => s ≠ "").map Item.ofModelText).toList
      (saidText? part).toList := by
  rw [string?_eq_textAt?]
  unfold Reply.isThought saidText?
  cases part.get? "thought" with
  | none => exact .ofModelText _
  | some v =>
    cases v with
    | bool thought =>
      cases thought with
      | true => exact .nil
      | false => exact .ofModelText _
    | _ => exact .ofModelText _

theorem said_partItem? (part : Json) :
    Piece.Said (Reply.partItem? part).toList (said? part).toList := by
  unfold Reply.partItem? said?
  rw [object?_eq_bind]
  cases part.get? "functionCall" with
  | none => exact said_text part
  | some v =>
    cases v with
    | obj members =>
      dsimp only [Option.bind_some, Json.kind, if_true]
      rw [← given_string?, ← stringOrEmpty_eq, ← getD_field?]
      exact .call _
    | _ => exact said_text part

theorem replyParts_eq (body : Json) :
    ((Reply.firstCandidate? body).map Reply.parts).getD [] = replyParts body := by
  unfold Reply.firstCandidate? Reply.parts replyParts
  rw [head?_elements]
  cases body.firstAt? "candidates" with
  | none => rfl
  | some candidate =>
    rw [Option.map_some, Option.getD_some, Option.bind_some, object?_eq_bind]
    cases candidate.get? "content" with
    | none => rfl
    | some content =>
      cases content with
      | obj members => exact elements_eq_elementsAt _ _
      | _ => rfl

/-- The items of a response are rendered as what its reply says. -/
theorem rendered_response (configured : Option String) (freshId session : String) (body : Json) :
    rendered (Reply.response configured freshId session body).output =
      Piece.number 0 ((replyParts body).filterMap said?) := by
  have said := Piece.Said.filterMap said_partItem? (replyParts body)
  rw [← replyParts_eq] at said ⊢
  exact said.rendered_eq

/-- What pieces become is one run. -/
theorem runs_number (ps : List Piece) :
    Runs.cut (placed roleName? (Piece.number 0 ps)) =
      if (Piece.number 0 ps).isEmpty then [] else [("model", Piece.number 0 ps)] := by
  have model : placed roleName? (Piece.number 0 ps) =
      (Piece.number 0 ps).map (Prod.mk "model") := placed_number (fun _ => rfl) fun _ _ _ => rfl
  rw [model, Runs.cut_map_mk]

end Gemini

namespace OpenAi

/-- What a call of a reply says, if it has a function. -/
def saidCall? (call : Json) : Option Piece :=
  match call.get? "function" with
  | some (.obj function) =>
    some (.call (call.filledAt? "id") (((Json.obj function).textAt? "name").getD "")
      ((Json.obj function).valueAt "arguments" .null))
  | _ => none

/-- What a message of a reply says: its text before its calls. -/
def saidIn (message : Json) : List Piece :=
  ((message.get? "content").bind fun v => Piece.ofText? (Content.ofJson v).plainText).toList ++
    (message.elementsAt "tool_calls").filterMap saidCall?

/-- What a reply says: what the message of its first choice does. -/
def said (body : Json) : List Piece :=
  match (body.firstAt? "choices").bind (·.get? "message") with
  | some message => saidIn message
  | none => []

theorem said_callItem? (call : Json) :
    Piece.Said (Reply.callItem? call).toList (saidCall? call).toList := by
  unfold Reply.callItem? saidCall?
  rw [object?_eq_bind]
  cases call.get? "function" with
  | none => exact .nil
  | some v =>
    cases v with
    | obj function =>
      dsimp only [Option.bind_some, Json.kind, if_true, Option.map_some]
      rw [← given_string?, ← stringOrEmpty_eq, ← getD_field?]
      exact .call _
    | _ => exact .nil

theorem said_textItem? (message : Json) :
    Piece.Said (Reply.textItem? message).toList
      ((message.get? "content").bind fun v =>
        Piece.ofText? (Content.ofJson v).plainText).toList := by
  have said (content : Option Json) :=
    Piece.Said.ofModelText (content.map fun v => (Content.ofJson v).plainText)
  unfold Reply.textItem?
  rw [field?_eq_bind]
  cases message.get? "content" with
  | none => exact .nil
  | some v =>
    cases v with
    | null => exact .nil
    | _ => exact said (some _)

/-- What is read from a message is its text and then its calls. -/
theorem said_messageItems (message : Json) :
    Piece.Said (Reply.messageItems message) (saidIn message) := by
  unfold Reply.messageItems saidIn
  rw [elements_eq_elementsAt]
  exact (said_textItem? message).append (.filterMap said_callItem? _)

theorem rendered_response (configured : Option String) (freshId session : String) (body : Json) :
    rendered (Reply.response configured freshId session body).output =
      Piece.number 0 (said body) := by
  unfold Reply.response Reply.message? Reply.firstChoice? said
  rw [head?_elements]
  cases body.firstAt? "choices" with
  | none => rfl
  | some choice =>
    rw [Option.bind_some, Option.bind_some, object?_eq_bind]
    cases choice.get? "message" with
    | none => rfl
    | some message =>
      have said := (said_messageItems message).rendered_eq
      cases message with
      | obj members => exact said
      | _ => exact said

/-- Texts of the system are groups of their own, and whatever comes after them is grouped as it is
without them. -/
theorem groups_append (texts : List String) (es : List Entry) :
    groups (texts.map (.text .system) ++ es) =
      texts.map (fun s => [.text .system s]) ++ groups es := by
  induction texts with
  | nil => rfl
  | cons s rest ih =>
    have apart := List.splitBy_append (r := joins) (l := [.text .system s])
      (m := rest.map (.text .system) ++ es) (by simp [joins, takesCalls])
    rw [groups] at ih
    rw [ih] at apart
    exact apart

/-- An entry that takes calls is one group with calls that follow it. -/
theorem groups_cons {e : Entry} (takes : takesCalls e = true) {calls : List Entry}
    (only : ∀ c ∈ calls, c.isCall = true) : groups (e :: calls) = [e :: calls] := by
  apply List.splitBy_of_isChain (List.cons_ne_nil e calls)
  induction calls generalizing e with
  | nil => exact .singleton e
  | cons c rest ih =>
    obtain ⟨isCall, others⟩ := List.forall_mem_cons.1 only
    exact List.isChain_cons_cons.2 ⟨by rw [joins, takes, isCall]; rfl,
      ih (takesCalls_of_isCall isCall) others⟩

/-- A reply says calls, and perhaps a text before them. -/
theorem number_said_cases (body : Json) :
    (∀ c ∈ Piece.number 0 (said body), c.isCall = true) ∨
      ∃ s calls, Piece.number 0 (said body) = .text .assistant s :: calls ∧
        ∀ c ∈ calls, c.isCall = true := by
  have only (calls : List Json) :
      ∀ c ∈ Piece.number 0 (calls.filterMap saidCall?), c.isCall = true := by
    intro e member
    rcases Piece.of_mem_number member with ⟨s, among, rfl⟩ | isCall
    · obtain ⟨call, _, made⟩ := List.mem_filterMap.1 among
      unfold saidCall? at made
      split at made <;> simp at made
    · exact isCall
  unfold said
  cases (body.firstAt? "choices").bind (·.get? "message") with
  | none => exact .inl fun _ member => absurd member List.not_mem_nil
  | some message =>
    dsimp only [saidIn]
    cases spoken : (message.get? "content").bind fun v =>
      Piece.ofText? (Content.ofJson v).plainText with
    | none => exact .inl (only _)
    | some p =>
      obtain ⟨v, _, isText⟩ := Option.bind_eq_some_iff.1 spoken
      unfold Piece.ofText? at isText
      split at isText
      · cases isText
      · cases isText
        exact .inr ⟨_, _, rfl, only _⟩

/-- What a reply says is one group. -/
theorem groups_said (body : Json) :
    groups (Piece.number 0 (said body)) =
      if (Piece.number 0 (said body)).isEmpty then [] else [Piece.number 0 (said body)] := by
  rcases number_said_cases body with only | ⟨s, calls, starts, only⟩
  · cases entries : Piece.number 0 (said body) with
    | nil => rfl
    | cons c rest =>
      rw [entries] at only
      obtain ⟨isCall, others⟩ := List.forall_mem_cons.1 only
      exact groups_cons (takesCalls_of_isCall isCall) others
  · rw [starts]
    exact groups_cons rfl only

end OpenAi

namespace Vendor

/-- What a vendor's reply says. -/
def said : Vendor → Json → List Piece
  | .claude, body => (body.elementsAt "content").filterMap Claude.said?
  | .openai, body => OpenAi.said body
  | .gemini, body => (Gemini.replyParts body).filterMap Gemini.said?

/-- Messages in which a vendor gets back what it has said: one message of the model, or none if
nothing was said. Only OpenAI has instructions among the messages. -/
def Echoed : Vendor → List String → List Entry → List Json → Prop
  | .claude, _, entries, messages => List.Forall₂ (SentRun "content" Claude.Sent)
    (if entries.isEmpty then [] else [("assistant", entries)]) messages
  | .openai, instructions, entries, messages => List.Forall₂ OpenAi.SentGroup
    (instructions.map (fun s => [.text .system s]) ++ if entries.isEmpty then [] else [entries])
    messages
  | .gemini, _, entries, messages => List.Forall₂ (SentRun "parts" Gemini.Sent)
    (if entries.isEmpty then [] else [("model", entries)]) messages

end Vendor

/-- Each vendor gets back what its own reply said. -/
theorem echoed_payloadOfItems (c : Converter) (freshId session : String) (body : Json)
    (r : Request) :
    ∃ messages,
      (c.payloadOfItems (c.responseOfBody freshId session body).output r).get?
        c.vendor.messagesKey = some (.arr messages) ∧
      c.vendor.Echoed r.preface (Piece.number 0 (c.vendor.said body)) messages := by
  unfold Converter.payloadOfItems Converter.responseOfBody
  cases c.vendor with
  | claude =>
    refine ⟨_, Claude.get?_messages _, ?_⟩
    have sent := Claude.sentRuns_messages
      (Claude.Reply.response c.model freshId session body).output
    rw [Claude.rendered_response, Claude.runs_number] at sent
    exact sent
  | openai =>
    refine ⟨_, OpenAi.get?_messages _, ?_⟩
    have sent := OpenAi.sentGroups_messages c.model
      (OpenAi.Reply.response c.model freshId session body).output r
    rw [OpenAi.entries, OpenAi.rendered_response, OpenAi.groups_append, OpenAi.groups_said] at sent
    exact sent
  | gemini =>
    refine ⟨_, Gemini.get?_contents _, ?_⟩
    have sent := Gemini.sentRuns_contents
      (Gemini.Reply.response c.model freshId session body).output
    rw [Gemini.rendered_response, Gemini.runs_number] at sent
    exact sent

/-- A vendor that is sent its own reply and nothing else gets back what it has said. -/
theorem payload_echoes (c : Converter) (freshId session : String) (body : Json) (r : Request) :
    ∃ payload messages,
      c.payload (c.responseOfBody freshId session body).output { r with input := .arr [] } =
        .ok payload ∧
      payload.get? c.vendor.messagesKey = some (.arr messages) ∧
      c.vendor.Echoed r.preface (Piece.number 0 (c.vendor.said body)) messages := by
  obtain ⟨messages, sent, echoed⟩ :=
    echoed_payloadOfItems c freshId session body { r with input := .arr [] }
  have parses : Input.parse (.arr []) = .ok [] := rfl
  refine ⟨_, messages, ?_, sent, echoed⟩
  simp only [Converter.payload, parses, List.append_nil]

/-- A reply of a call that is marked as a thought. -/
def thoughtCall : Json :=
  .obj [("candidates", .arr [.obj [("content", .obj [("parts", .arr [
    .obj [("functionCall", .obj [("name", .str "lookup")]), ("thought", .bool true)]])])]])]

/-- No part of the reply is without the mark, and yet the call is sent back. -/
theorem gemini_echoes_thoughtCall :
    (∀ part ∈ Gemini.replyParts thoughtCall, part.get? "thought" = some (.bool true)) ∧
      ∃ payload,
        (Converter.ofVendor .gemini).payload
          ((Converter.ofVendor .gemini).responseOfBody "id" "session" thoughtCall).output
          (.ofInput (.arr [])) = .ok payload ∧
        payload.get? "contents" = some (.arr [.obj [
          ("parts", .arr [.obj [
            ("functionCall", .obj [("args", .obj []), ("name", .str "lookup")])]]),
          ("role", .str "model")]]) := by
  refine ⟨fun part member => ?_, _, rfl, ?_⟩
  · rw [List.mem_singleton.1 (member : part ∈ [_])]
    rfl
  · rfl

end ChatRelay
