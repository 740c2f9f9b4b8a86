import ChatRelay.Converter
import ChatRelay.Proofs.Transcript.Coercion
import ChatRelay.Proofs.Vendor.SentRuns
import Mathlib.Data.List.Perm.Basic

/-!
# How Claude's messages are grouped

The converter merges block by block: a tool result goes in front of the other blocks of the last
message. This module says what comes out without following the merging. The entries of the items,
each under the role that it is sent under, are cut into maximal runs of one role; a message is a run
with its results first. What a message and its blocks are is said key by key, as they are read from
the payload.
-/
namespace ChatRelay.Claude

/-- A run as a message: its tool results, then its other blocks, both in their order. -/
def Message.ofRun (run : Role × List Block) : Message :=
  ⟨run.1, run.2.filter Block.isToolResult ++ run.2.filter fun b => !b.isToolResult⟩

/-- A block added to a message joins its run at the end. -/
theorem add_ofRun (role : Role) (bs : List Block) (b : Block) :
    (Message.ofRun (role, bs)).add b = Message.ofRun (role, bs ++ [b]) := by
  have results : ∀ x ∈ bs.filter Block.isToolResult, x.isToolResult = true :=
    fun x member => (List.mem_filter.1 member).2
  have others : (bs.filter fun x => !x.isToolResult).takeWhile Block.isToolResult = [] ∧
      (bs.filter fun x => !x.isToolResult).dropWhile Block.isToolResult =
        bs.filter fun x => !x.isToolResult := by
    cases rest : bs.filter fun x => !x.isToolResult with
    | nil => exact ⟨rfl, rfl⟩
    | cons x xs =>
      have member : x ∈ bs.filter fun x => !x.isToolResult := by rw [rest]; exact List.mem_cons_self
      have fails : x.isToolResult = false := by simpa using (List.mem_filter.1 member).2
      simp [fails]
  unfold Message.add Message.ofRun
  cases result : b.isToolResult with
  | true =>
    rw [if_pos rfl, List.takeWhile_append_of_pos results, List.dropWhile_append_of_pos results,
      others.1, others.2]
    simp [List.filter_append, result]
  | false => simp [List.filter_append, result]

/-- Pushing a block onto the messages of runs puts it after the runs. -/
theorem push_map_ofRun (runs : List (Role × List Block)) (x : Role × Block) :
    push (runs.map Message.ofRun) x = (Runs.snoc runs x).map Message.ofRun := by
  obtain ⟨role, b⟩ := x
  match runs with
  | [] => cases result : b.isToolResult <;> simp [push, Runs.snoc, Message.ofRun, result]
  | [(role', bs)] =>
    have kept : (Message.ofRun (role', bs)).role = role' := rfl
    rw [List.map_singleton, push, kept, Runs.snoc]
    by_cases same : role' = role
    · rw [if_pos same, if_pos same, add_ofRun, List.map_singleton]
    · rw [if_neg same, if_neg same]
      cases result : b.isToolResult <;> simp [Message.ofRun, result]
  | run :: run' :: rest =>
    have ih := push_map_ofRun (run' :: rest) (role, b)
    rw [List.map_cons] at ih ⊢
    rw [List.map_cons, push, Runs.snoc, List.map_cons, ih]

/-- The messages of a transcript are the runs of its blocks. -/
theorem messages_eq_cut (t : Transcript) :
    messages t = (Runs.cut (t.filterMap block?)).map Message.ofRun :=
  Runs.foldl_eq_map_cut push_map_ofRun _

/-- The blocks of messages, each under its role. -/
def flat (messages : List Message) : List (Role × Block) :=
  messages.flatMap fun m => m.content.map (Prod.mk m.role)

/-- The role that an entry is sent under. What the system says is sent elsewhere. -/
def roleName? : Entry → Option String
  | .text .system _ => none
  | .text .assistant _ => some "assistant"
  | .text .user _ | .text .tool _ => some "user"
  | .call _ _ _ => some "assistant"
  | .result _ _ _ => some "user"

/-- A run with its results before all else. -/
def resultsFirst (run : String × List Entry) : String × List Entry :=
  (run.1, run.2.filter Entry.isResult ++ run.2.filter fun e => !e.isResult)

/-- A block as it is sent for an entry. -/
def Sent : Entry → Json → Prop
  | .text _ text, b => b.Holds [("type", .str "text"), ("text", .str text)]
  | .call id name arguments, b => ∃ input, Arguments.ComeTo arguments input ∧
    b.Holds [("type", .str "tool_use"), ("id", .str id), ("name", .str name),
      ("input", .obj input)]
  | .result id _ output, b => ∃ content, Output.Spelled output content ∧
    b.Holds [("type", .str "tool_result"), ("tool_use_id", .str id), ("content", .str content)]

/-- How the messages of a payload are made of the entries of a conversation. -/
structure Grouped (entries : List Entry) (messages : List Json) : Prop where
  /-- One message for each maximal run of one role, in which results come first. -/
  runs : List.Forall₂ (SentRun "content" Sent)
    ((Runs.cut (placed roleName? entries)).map resultsFirst) messages
  /-- Messages that follow each other have different roles. -/
  apart : messages.IsChain fun m m' => m.get? "role" ≠ m'.get? "role"
  nonempty : ∀ m ∈ messages, m.elementsAt "content" ≠ []
  uses : ∀ m ∈ messages, ∀ b ∈ m.elementsAt "content", b.get? "type" = some (.str "tool_use") →
    m.get? "role" = some (.str "assistant")
  results : ∀ m ∈ messages, ∀ b ∈ m.elementsAt "content",
    b.get? "type" = some (.str "tool_result") → m.get? "role" = some (.str "user")
  leading : ∀ m ∈ messages, ∃ results others, m.elementsAt "content" = results ++ others ∧
    (∀ b ∈ results, b.get? "type" = some (.str "tool_result")) ∧
    ∀ b ∈ others, b.get? "type" ≠ some (.str "tool_result")
  /-- No entry is lost or sent twice. -/
  kept : ∃ sent, sent.Perm (placed roleName? entries) ∧
    List.Forall₂ (SentUnder Sent) sent (listedUnder "content" messages)

/-- What stands under `type` in a block. -/
theorem Sent.type {e : Entry} {b : Json} (sent : Sent e b) :
    b.get? "type" = some (.str (match e with
      | .text _ _ => "text" | .call _ _ _ => "tool_use" | .result _ _ _ => "tool_result")) := by
  cases e with
  | text role text => exact (sent.under "type").trans List.lookup_cons_self
  | call id name arguments =>
    obtain ⟨_, _, holds⟩ := sent
    exact (holds.under "type").trans List.lookup_cons_self
  | result id name output =>
    obtain ⟨_, _, holds⟩ := sent
    exact (holds.under "type").trans List.lookup_cons_self

theorem Sent.isResult_iff {e : Entry} {b : Json} (sent : Sent e b) :
    b.get? "type" = some (.str "tool_result") ↔ e.isResult = true := by
  rw [sent.type]
  cases e <;> simp [Entry.isResult]

theorem flat_resultsFirst (runs : List (String × List Entry)) :
    (Runs.flat (runs.map resultsFirst)).Perm (Runs.flat runs) := by
  rw [Runs.flat, List.flatMap_map, Runs.flat]
  apply List.Perm.flatMap_left runs
  intro run _
  exact (List.filter_append_perm Entry.isResult run.2).map _

/-- Messages that are made of the runs in this way have all the rest. -/
theorem grouped_of_runs {entries : List Entry} {messages : List Json}
    (runs : List.Forall₂ (SentRun "content" Sent)
      ((Runs.cut (placed roleName? entries)).map resultsFirst) messages) :
    Grouped entries messages := by
  have other : "content" ≠ "role" := by decide
  have perm := flat_resultsFirst (Runs.cut (placed roleName? entries))
  rw [Runs.flat_cut] at perm
  -- whatever a message lists is sent for an entry under the message's role
  have listed {m b : Json} (there : m ∈ messages) (member : b ∈ m.elementsAt "content") :
      ∃ role e, roleName? e = some role ∧ m.get? "role" = some (.str role) ∧ Sent e b := by
    obtain ⟨run, cut, sent⟩ := runs.exists_of_mem there
    obtain ⟨e, among, each⟩ := (sent.elements other).exists_of_mem member
    have inside : (run.1, e) ∈ placed roleName? entries := perm.subset
      (List.mem_flatMap.2 ⟨run, cut, List.mem_map_of_mem among⟩)
    exact ⟨run.1, e, role?_of_mem_placed inside, sent.role, each⟩
  refine ⟨runs, SentRun.apart runs ?_, SentRun.nonempty other runs ?_, ?_, ?_, ?_,
    _, perm, SentRun.listed other runs⟩
  · apply (List.isChain_map _).2
    exact Runs.isChain_cut _
  · intro run member empty
    obtain ⟨run', cut, rfl⟩ := List.mem_map.1 member
    apply Runs.ne_nil_of_mem_cut cut
    have perm := List.filter_append_perm Entry.isResult run'.2
    exact (perm.symm.trans (List.Perm.of_eq empty)).eq_nil
  · intro m there b member isUse
    obtain ⟨role, e, named, under, sent⟩ := listed there member
    rw [sent.type] at isUse
    cases e <;> simp_all [roleName?]
  · intro m there b member isResult
    obtain ⟨role, e, named, under, sent⟩ := listed there member
    rw [sent.type] at isResult
    cases e <;> simp_all [roleName?]
  · intro m there
    obtain ⟨run, cut, sent⟩ := runs.exists_of_mem there
    obtain ⟨run', _, rfl⟩ := List.mem_map.1 cut
    obtain ⟨results, others, split, first, second⟩ := (sent.elements other).exists_append
    refine ⟨results, others, split, fun b member => ?_, fun b member => ?_⟩
    · obtain ⟨e, among, here⟩ := first.exists_of_mem member
      exact here.isResult_iff.2 (List.mem_filter.1 among).2
    · obtain ⟨e, among, here⟩ := second.exists_of_mem member
      rw [Ne, here.isResult_iff]
      simpa using (List.mem_filter.1 among).2

def role? : Entry → Option Role
  | .text .system _ => none
  | .text .assistant _ => some .assistant
  | .text .user _ | .text .tool _ => some .user
  | .call _ _ _ => some .assistant
  | .result _ _ _ => some .user

theorem roleName?_eq (e : Entry) : roleName? e = (role? e).map Role.name := by
  rcases e with ⟨_ | _ | _ | _, text⟩ | _ | _ <;> rfl

theorem name_injective : Function.Injective Role.name := by
  intro role role' same
  cases role <;> cases role' <;> simp_all [Role.name]

def block : Entry → Block
  | .text _ text => .text text
  | .call id name arguments => .toolUse id name (Arguments.members arguments)
  | .result id _ output => .toolResult id (Output.text output)

theorem sent_block (e : Entry) : Sent e (block e).toJson := by
  cases e with
  | text role text => exact Json.holds_object (by simp)
  | call id name arguments =>
    exact ⟨_, Arguments.comeTo_members arguments, Json.holds_object (by simp)⟩
  | result id name output =>
    exact ⟨_, Output.spelled_text output, Json.holds_object (by simp)⟩

/-- The message of a run lists its results first and then its other blocks. -/
theorem sentRun_ofRun (role : Role) (es : List Entry) :
    SentRun "content" Sent (resultsFirst (role.name, es))
      (Message.ofRun (role, es.map block)).toJson := by
  refine ⟨_, Json.holds_object (by simp), ?_⟩
  have isResult (e : Entry) : (block e).isToolResult = e.isResult := by
    cases e <;> rfl
  simp only [Message.ofRun, List.filter_map, Function.comp_def, isResult, ← List.map_append,
    List.map_map]
  apply List.forall₂_map_right_iff.2
  apply List.forall₂_same.2
  intro e _
  exact sent_block e

theorem filterMap_block?_ofItems (items : List Item) :
    (Transcript.ofItems items).filterMap block? =
      (placed role? (rendered items)).map (Prod.map id block) := by
  rw [← map_utterance_rendered, List.filterMap_map, placed, List.map_filterMap]
  apply List.filterMap_congr
  intro e _
  rcases e with ⟨_ | _ | _ | _, text⟩ | _ | _ <;> rfl

/-- The messages of a conversation are sent for its runs. -/
theorem sentRuns_messages (items : List Item) :
    List.Forall₂ (SentRun "content" Sent)
      ((Runs.cut (placed roleName? (rendered items))).map resultsFirst)
      ((messages (.ofItems items)).map Message.toJson) := by
  rw [funext roleName?_eq, messages_eq_cut, filterMap_block?_ofItems, List.map_map]
  exact SentRun.of_cut name_injective sentRun_ofRun role? (rendered items)

theorem get?_messages (p : Payload) :
    p.toJson.get? "messages" = some (.arr (p.messages.map Message.toJson)) := by
  unfold Payload.toJson
  simp [Json.get?_object, List.lookup_append, Json.lookup_optional_of_ne]

/-- The messages sent to Claude are made of the entries of the history and the new items, cut into
maximal runs of one role, with the results of each run first. -/
theorem payload_messages_grouped {c : Converter} {r : Request} {items : List Item}
    (claude : c.vendor = .claude) (parses : Input.parse r.input = .ok items)
    (history : List Item) :
    ∃ body messages, c.payload history r = .ok body ∧
      body.get? "messages" = some (.arr messages) ∧
      Grouped (rendered (history ++ items)) messages := by
  refine ⟨_, _, ?_, get?_messages (.make c.model c.budget (.ofItems (history ++ items)) r),
    grouped_of_runs (sentRuns_messages (history ++ items))⟩
  simp only [Converter.payload, parses, Converter.payloadOfItems, claude]

/-- A text of the user and the result of a call that follows it share a message. -/
theorem payload_messages_grouped_weather :
    ∃ body messages, (Converter.ofVendor .claude).payload
        [.call ⟨"weather", .null, some "c1"⟩, .ofUserText "Wait",
          .output ⟨some "c1", none, .str "rain"⟩]
        (.ofInput (.str "Thanks")) = .ok body ∧
      body.get? "messages" = some (.arr messages) ∧
      Grouped (rendered ([.call ⟨"weather", .null, some "c1"⟩, .ofUserText "Wait",
        .output ⟨some "c1", none, .str "rain"⟩] ++ [.ofUserText "Thanks"])) messages :=
  payload_messages_grouped rfl rfl _

end ChatRelay.Claude
