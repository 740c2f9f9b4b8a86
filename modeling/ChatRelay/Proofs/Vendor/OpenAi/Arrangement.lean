import ChatRelay.Converter
import ChatRelay.Proofs.Transcript.Coercion
import ChatRelay.Proofs.Vendor.OpenAi.Carriage
import ChatRelay.Proofs.Vendor.SentRuns
import Mathlib.Data.List.SplitBy

/-!
# How OpenAI's messages are arranged

The converter goes from item to item and adds each call to whatever message stands last. This module
says what comes out by cutting the entries of the instructions and the items into groups: a call
stays with a call or a text of the assistant at once before it, and every other entry begins a group
of its own. A group is a message, and what the message holds is said key by key, as it is read from
the payload.
-/
namespace ChatRelay.OpenAi

/-- The entries of a request's instructions and of a conversation's items, in their order. -/
def entries (r : Request) (items : List Item) : List Entry :=
  r.preface.map (.text .system) ++ rendered items

/-- Calls that follow at once belong to an entry. -/
def takesCalls : Entry → Bool
  | .text .assistant _ => true
  | .call _ _ _ => true
  | _ => false

theorem takesCalls_of_isCall {e : Entry} (isCall : e.isCall = true) : takesCalls e = true := by
  cases e with
  | call id name arguments => rfl
  | _ => cases isCall

/-- The next entry belongs to the message of the one before it. -/
def joins (e next : Entry) : Bool := takesCalls e && next.isCall

/-- Entries that share a message. -/
def groups (es : List Entry) : List (List Entry) := es.splitBy joins

/-- A call in a message as it is sent. -/
def SentCall : Entry → Json → Prop
  | .call id name arguments, c => ∃ function text, Arguments.Spelled arguments text ∧
    c.Holds [("id", .str id), ("type", .str "function"), ("function", function)] ∧
    function.Holds [("name", .str name), ("arguments", .str text)]
  | _, _ => False

/-- A message of the assistant with a text or calls, of which what is missing is left out. -/
def SentAssistant (text : Option String) (calls : List Entry) (m : Json) : Prop :=
  ∃ toolCalls, List.Forall₂ SentCall calls toolCalls ∧
    m.Holds ([("role", .str "assistant")] ++ (text.map fun s => ("content", .str s)).toList ++
      if calls.isEmpty then [] else [("tool_calls", .arr toolCalls)])

/-- The message of a group as it is sent. -/
def SentGroup : List Entry → Json → Prop
  | [.text .system s], m => m.Holds [("role", .str "system"), ("content", .str s)]
  | [.text .user s], m => m.Holds [("role", .str "user"), ("content", .str s)]
  | [.text .tool s], m => m.Holds [("role", .str "user"), ("content", .str s)]
  | .text .assistant s :: calls, m => SentAssistant (some s) calls m
  | .call id name arguments :: calls, m => SentAssistant none (.call id name arguments :: calls) m
  | [.result id _ output], m => ∃ text, Output.Spelled output text ∧
    m.Holds [("role", .str "tool"), ("content", .str text), ("tool_call_id", .str id)]
  | _, _ => False

/-- A message of a payload holds what a message of its role may hold. -/
structure WellFormed (m : Json) : Prop where
  /-- Only the assistant calls, and a list of calls is not empty. -/
  calls : ∀ v, m.get? "tool_calls" = some v →
    m.get? "role" = some (.str "assistant") ∧ ∃ c rest, v = .arr (c :: rest)
  /-- Just the tool's messages name the calls they answer. -/
  callId : (m.get? "tool_call_id").isSome = true ↔ m.get? "role" = some (.str "tool")
  substance : (m.get? "content").isSome = true ∨ (m.get? "tool_calls").isSome = true

/-- The messages of a payload are those of a conversation under a request's instructions. -/
structure Arranged (r : Request) (items : List Item) (messages : List Json) : Prop where
  /-- One message for each group. -/
  groups : List.Forall₂ SentGroup (groups (entries r items)) messages
  /-- Every call of the conversation stands in one list of calls, in the conversation's order. -/
  calls : List.Forall₂ SentCall ((rendered items).filter Entry.isCall)
    (messages.flatMap (·.elementsAt "tool_calls"))
  wellFormed : ∀ m ∈ messages, WellFormed m

/-- Entries that may share a message. -/
def Group (g : List Entry) : Prop := g ≠ [] ∧ g.IsChain fun e next => joins e next = true

theorem group_of_mem_groups {es g : List Entry} (member : g ∈ groups es) : Group g :=
  ⟨List.ne_nil_of_mem_splitBy member, List.isChain_of_mem_splitBy member⟩

/-- Whatever follows in a group is a call, and only some entries are followed. -/
theorem Group.calls {e : Entry} {rest : List Entry} (group : Group (e :: rest)) :
    (∀ c ∈ rest, c.isCall = true) ∧ (takesCalls e = false → rest = []) := by
  obtain ⟨_, chain⟩ := group
  induction rest generalizing e with
  | nil => exact ⟨fun _ member => absurd member List.not_mem_nil, fun _ => rfl⟩
  | cons c others ih =>
    obtain ⟨joined, chain⟩ := List.isChain_cons_cons.1 chain
    obtain ⟨takes, isCall⟩ := Bool.and_eq_true_iff.1 joined
    refine ⟨List.forall_mem_cons.2 ⟨isCall, (ih (List.cons_ne_nil c others) chain).1⟩,
      fun takesNone => ?_⟩
    rw [takes] at takesNone
    cases takesNone

/-- A group is an entry alone, or an entry that takes calls with the calls it takes. -/
theorem Group.shape {g : List Entry} (group : Group g) :
    (∃ e, g = [e] ∧ takesCalls e = false) ∨
      (∃ s calls, g = .text .assistant s :: calls ∧ ∀ c ∈ calls, c.isCall = true) ∨
      ∃ id name arguments calls, g = .call id name arguments :: calls ∧
        ∀ c ∈ calls, c.isCall = true := by
  cases g with
  | nil => exact absurd rfl group.1
  | cons e rest =>
    obtain ⟨calls, others⟩ := group.calls
    match e with
    | .text .assistant s => exact .inr (.inl ⟨s, rest, rfl, calls⟩)
    | .call id name arguments => exact .inr (.inr ⟨id, name, arguments, rest, rfl, calls⟩)
    | .text .system s => exact .inl ⟨_, congrArg _ (others rfl), rfl⟩
    | .text .user s => exact .inl ⟨_, congrArg _ (others rfl), rfl⟩
    | .text .tool s => exact .inl ⟨_, congrArg _ (others rfl), rfl⟩
    | .result id name output => exact .inl ⟨_, congrArg _ (others rfl), rfl⟩

/-- What stands under the keys of a message of the assistant. -/
theorem SentAssistant.under {text : Option String} {calls : List Entry} {m : Json}
    (sent : SentAssistant text calls m) :
    m.get? "role" = some (.str "assistant") ∧ m.get? "content" = text.map .str ∧
      m.get? "tool_call_id" = none ∧
      ∃ toolCalls, List.Forall₂ SentCall calls toolCalls ∧
        m.get? "tool_calls" = if calls.isEmpty then none else some (.arr toolCalls) := by
  obtain ⟨toolCalls, each, holds⟩ := sent
  simp only [holds.under]
  refine ⟨?_, ?_, ?_, toolCalls, each, ?_⟩ <;> cases text <;> cases calls.isEmpty <;>
    simp [List.lookup_cons]

/-- The calls in a message of the assistant. -/
theorem SentAssistant.elementsAt {text : Option String} {calls : List Entry} {m : Json}
    (sent : SentAssistant text calls m) :
    List.Forall₂ SentCall calls (m.elementsAt "tool_calls") := by
  obtain ⟨_, _, _, toolCalls, each, listed⟩ := sent.under
  cases each with
  | nil =>
    rw [Json.elementsAt, listed]
    exact .nil
  | cons here rest =>
    rw [Json.elementsAt_of_get? listed]
    exact .cons here rest

/-- A message of the assistant with a text or with calls is well formed. -/
theorem SentAssistant.wellFormed {text : Option String} {calls : List Entry} {m : Json}
    (sent : SentAssistant text calls m) (substantial : text.isSome = true ∨ calls ≠ []) :
    WellFormed m := by
  obtain ⟨role, content, callId, toolCalls, each, listed⟩ := sent.under
  refine ⟨fun v found => ⟨role, ?_⟩, by simp [callId, role], ?_⟩
  · rw [listed] at found
    cases each with
    | nil => cases found
    | cons => exact ⟨_, _, (Option.some.inj found).symm⟩
  · rw [content, listed]
    rcases substantial with spoken | calling
    · exact .inl (by simpa using spoken)
    · exact .inr (by simp [calling])

/-- The message of a group is well-formed, and holds the calls of the group. -/
theorem Group.sent {g : List Entry} (group : Group g) {m : Json} (sent : SentGroup g m) :
    WellFormed m ∧ List.Forall₂ SentCall (g.filter Entry.isCall) (m.elementsAt "tool_calls") := by
  have all {calls : List Entry} (only : ∀ c ∈ calls, c.isCall = true) :
      calls.filter Entry.isCall = calls := List.filter_eq_self.2 only
  rcases group.shape with ⟨e, rfl, takesNone⟩ | ⟨s, calls, rfl, only⟩ |
    ⟨id, name, arguments, calls, rfl, only⟩
  · have text {role s : String} (other : role ≠ "tool")
        (holds : m.Holds [("role", .str role), ("content", .str s)]) :
        WellFormed m ∧ m.elementsAt "tool_calls" = [] := by
      refine ⟨⟨?_, ?_, ?_⟩, ?_⟩ <;> simp [Json.elementsAt, holds.under, List.lookup_cons, other]
    cases e with
    | text role s =>
      cases role with
      | assistant => cases takesNone
      | _ =>
        obtain ⟨wellFormed, none⟩ := text (by simp) sent
        exact ⟨wellFormed, none ▸ .nil⟩
    | call id name arguments => cases takesNone
    | result id name output =>
      obtain ⟨content, _, holds⟩ := sent
      have none : m.elementsAt "tool_calls" = [] := by
        simp [Json.elementsAt, holds.under, List.lookup_cons]
      refine ⟨⟨?_, ?_, ?_⟩, none ▸ .nil⟩ <;> simp [holds.under, List.lookup_cons]
  · have assistant : SentAssistant (some s) calls m := sent
    refine ⟨assistant.wellFormed (.inl rfl), ?_⟩
    rw [List.filter_cons_of_neg (by simp [Entry.isCall]), all only]
    exact assistant.elementsAt
  · have assistant : SentAssistant none (.call id name arguments :: calls) m := sent
    refine ⟨assistant.wellFormed (.inr (List.cons_ne_nil _ _)), ?_⟩
    rw [List.filter_cons_of_pos rfl, all only]
    exact assistant.elementsAt

/-- Messages that are made of the groups in this way have all the rest. -/
theorem arranged_of_groups {r : Request} {items : List Item} {messages : List Json}
    (sent : List.Forall₂ SentGroup (groups (entries r items)) messages) :
    Arranged r items messages := by
  have calls : (groups (entries r items)).flatMap (List.filter Entry.isCall) =
      (rendered items).filter Entry.isCall := by
    have texts : (r.preface.map (Entry.text .system)).filter Entry.isCall = [] := by
      rw [List.filter_map]
      simp [Function.comp_def, Entry.isCall]
    rw [List.flatMap, ← List.filter_flatten, groups, List.flatten_splitBy, entries,
      List.filter_append, texts, List.nil_append]
  have each := (List.forall₂_and_left (p := Group) _ _).2 ⟨fun _ => group_of_mem_groups, sent⟩
  refine ⟨sent, ?_, fun m member => ?_⟩
  · rw [← calls]
    apply List.rel_flatMap each
    intro g m here
    exact (here.1.sent here.2).2
  · obtain ⟨g, _, here⟩ := each.exists_of_mem member
    exact (here.1.sent here.2).1

def toolCall? : Entry → Option ToolCall
  | .call id name arguments => some ⟨id, name, Arguments.text arguments⟩
  | _ => none

def Message.ofGroup : List Entry → Message
  | .text .system s :: _ => .system s
  | .text .assistant s :: calls => .assistant (some s) (calls.filterMap toolCall?)
  | .text .user s :: _ | .text .tool s :: _ => .user s
  | .result id _ output :: _ => .tool id (Output.text output)
  | calls => .assistant none (calls.filterMap toolCall?)

theorem forall₂_sentCall {calls : List Entry} (only : ∀ c ∈ calls, c.isCall = true) :
    List.Forall₂ SentCall calls ((calls.filterMap toolCall?).map ToolCall.toJson) := by
  induction calls with
  | nil => exact .nil
  | cons c rest ih =>
    obtain ⟨isCall, others⟩ := List.forall_mem_cons.1 only
    match c with
    | .call id name arguments =>
      exact .cons ⟨_, _, Arguments.spelled_text arguments, Json.holds_object (by simp),
        Json.holds_object (by simp)⟩ (ih others)

theorem sentAssistant_toJson (text : Option String) {calls : List Entry}
    (only : ∀ c ∈ calls, c.isCall = true) :
    SentAssistant text calls (Message.assistant text (calls.filterMap toolCall?)).toJson := by
  have each := forall₂_sentCall only
  refine ⟨_, each, ?_⟩
  have none : (calls.filterMap toolCall?).isEmpty = calls.isEmpty := by
    have length := each.length_eq
    rw [List.length_map] at length
    rw [Bool.eq_iff_iff, List.isEmpty_iff_length_eq_zero, List.isEmpty_iff_length_eq_zero, length]
  rw [Message.toJson, none]
  cases text <;> cases calls.isEmpty <;> exact Json.holds_object (by simp [Json.optional])

/-- The message of a group holds, read under its keys, what the entries of the group say. -/
theorem Group.sentGroup_ofGroup {g : List Entry} (group : Group g) :
    SentGroup g (Message.ofGroup g).toJson := by
  rcases group.shape with ⟨e, rfl, takesNone⟩ | ⟨s, calls, rfl, only⟩ |
    ⟨id, name, arguments, calls, rfl, only⟩
  · match e with
    | .text .system s | .text .user s | .text .tool s => exact Json.holds_object (by simp)
    | .result id name output =>
      exact ⟨_, Output.spelled_text output, Json.holds_object (by simp)⟩
  · exact sentAssistant_toJson (some s) only
  · exact sentAssistant_toJson none (List.forall_mem_cons.2 ⟨rfl, only⟩)

/-- Whether a message of the assistant stands last. -/
def AssistantLast (ms : List Message) : Prop :=
  ∃ init text calls, ms = init ++ [.assistant text calls]

theorem not_assistantLast_concat {m : Message} (other : ∀ text calls, m ≠ .assistant text calls)
    (ms : List Message) : ¬ AssistantLast (ms ++ [m]) := by
  rintro ⟨init, text, calls, same⟩
  exact other text calls (List.cons.inj (List.append_inj_right' same rfl)).1

/-- A call is attached to the last message, so what comes before does not matter. -/
theorem attach_append (start : List Message) {ms : List Message} (some : ms ≠ []) (c : ToolCall) :
    attach (start ++ ms) c = start ++ attach ms c := by
  induction start with
  | nil => rfl
  | cons m rest ih =>
    obtain ⟨m', others, split⟩ :=
      List.exists_cons_of_ne_nil (List.append_ne_nil_of_right_ne_nil rest some)
    rw [List.cons_append, split, attach, ← split, ih]
    rfl

theorem attach_ne_nil (ms : List Message) (c : ToolCall) : attach ms c ≠ [] := by
  rcases attach_cases ms c with new | ⟨init, text, calls, _, added⟩
  · simp [new]
  · simp [added]

/-- What is said to messages leaves those before them as they are. -/
theorem messages_append_of_ne_nil (start : List Message) {ms : List Message} (some : ms ≠ [])
    (t : Transcript) : messages (start ++ ms) t = start ++ messages ms t := by
  induction t generalizing ms with
  | nil => rfl
  | cons u rest ih =>
    have pushed : push (start ++ ms) u = start ++ push ms u ∧ push ms u ≠ [] := by
      cases u with
      | call id name arguments => exact ⟨attach_append start some _, attach_ne_nil ms _⟩
      | said speaker text => cases speaker <;> simp [push]
      | _ => simp [push]
    rw [messages, List.foldl_cons, pushed.1]
    exact ih pushed.2

/-- What is said to messages comes after them, unless it begins with a call that belongs to a
message of the assistant there. -/
theorem messages_append {start : List Message} {t : Transcript}
    (apart : ∀ id name arguments rest, t = .call id name arguments :: rest →
      ¬ AssistantLast start) : messages start t = start ++ messages [] t := by
  cases t with
  | nil => simp [messages]
  | cons u rest =>
    have pushed : push start u = start ++ push [] u ∧ push [] u ≠ [] := by
      cases u with
      | call id name arguments =>
        rcases attach_cases start ⟨id, name, Arguments.text arguments⟩ with
          new | ⟨init, text, calls, split, _⟩
        · exact ⟨new, attach_ne_nil [] _⟩
        · exact absurd ⟨init, text, calls, split⟩ (apart id name arguments rest rfl)
      | said speaker text => cases speaker <;> simp [push]
      | _ => simp [push]
    rw [messages, List.foldl_cons, pushed.1]
    exact messages_append_of_ne_nil start pushed.2 rest

/-- Calls are added to the message of the assistant that stands last. -/
theorem messages_assistant (init : List Message) (text : Option String) (before : List ToolCall)
    {calls : List Entry} (only : ∀ c ∈ calls, c.isCall = true) :
    messages (init ++ [.assistant text before]) (calls.map Entry.utterance) =
      init ++ [.assistant text (before ++ calls.filterMap toolCall?)] := by
  induction calls generalizing before with
  | nil => simp [messages]
  | cons c rest ih =>
    obtain ⟨isCall, others⟩ := List.forall_mem_cons.1 only
    match c with
    | .call id name arguments =>
      have pushed := attach_assistant init text before ⟨id, name, Arguments.text arguments⟩
      rw [List.map_cons, messages, List.foldl_cons, Entry.utterance, push, pushed]
      refine (ih _ others).trans ?_
      rw [List.append_assoc]
      rfl

/-- The entries of a group, pushed one after another, make one message. -/
theorem Group.messages_eq {g : List Entry} (group : Group g) :
    messages [] (g.map Entry.utterance) = [.ofGroup g] := by
  rcases group.shape with ⟨e, rfl, takesNone⟩ | ⟨s, calls, rfl, only⟩ |
    ⟨id, name, arguments, calls, rfl, only⟩
  · match e with
    | .text .system s | .text .user s | .text .tool s | .result id name output => rfl
  · exact messages_assistant [] (some s) [] only
  · exact messages_assistant [] none [⟨id, name, Arguments.text arguments⟩] only

/-- An entry that takes calls stands last in a group with a message of the assistant. -/
theorem Group.takesCalls_getLast {g : List Entry} (group : Group g)
    (assistant : AssistantLast [.ofGroup g]) : takesCalls (g.getLast group.1) = true := by
  have ofCalls {e : Entry} {calls : List Entry} (takes : takesCalls e = true)
      (only : ∀ c ∈ calls, c.isCall = true) :
      takesCalls ((e :: calls).getLast (List.cons_ne_nil e calls)) = true := by
    rcases List.mem_cons.1 (List.getLast_mem (List.cons_ne_nil e calls)) with first | later
    · rw [first, takes]
    · exact takesCalls_of_isCall (only _ later)
  rcases group.shape with ⟨e, rfl, takesNone⟩ | ⟨s, calls, rfl, only⟩ |
    ⟨id, name, arguments, calls, rfl, only⟩
  · refine absurd assistant (not_assistantLast_concat (fun text calls => ?_) [])
    match e with
    | .text .system s | .text .user s | .text .tool s | .result id name output =>
      simp [Message.ofGroup]
  · exact ofCalls rfl only
  · exact ofCalls rfl only

/-- What groups say one after another is their messages, if each ends where no call may follow or
the next one does not begin with a call. -/
theorem messages_flatten {gs : List (List Entry)} (each : ∀ g ∈ gs, Group g)
    (apart : gs.IsChain fun g g' => ∃ some some', joins (g.getLast some) (g'.head some') = false) :
    messages [] (gs.flatten.map Entry.utterance) = gs.map .ofGroup := by
  induction gs with
  | nil => rfl
  | cons g rest ih =>
    obtain ⟨here, others⟩ := List.forall_mem_cons.1 each
    have later := ih others apart.tail
    have beside : ∀ id name arguments more,
        rest.flatten.map Entry.utterance = .call id name arguments :: more →
          ¬ AssistantLast [.ofGroup g] := by
      intro id name arguments more begins assistant
      have takes := here.takesCalls_getLast assistant
      match rest with
      | [] => cases begins
      | [] :: _ => exact (others [] List.mem_cons_self).1 rfl
      | (e :: _) :: _ =>
        obtain ⟨some, _, notJoined⟩ := (List.isChain_cons_cons.1 apart).1
        rw [joins, takes, Bool.true_and, List.head_cons] at notJoined
        have said : e.utterance = .call id name arguments := (List.cons.inj begins).1
        match e with
        | .call _ _ _ => cases notJoined
        | .text .system _ | .text .assistant _ | .text .user _ | .text .tool _ => cases said
        | .result _ _ _ => cases said
    rw [List.flatten_cons, List.map_append, messages, List.foldl_append]
    refine (congrArg (messages · _) here.messages_eq).trans ?_
    rw [messages_append beside, later]
    rfl

/-- The messages of a payload are those of the groups of its entries. -/
theorem messages_make (configured : Option String) (items : List Item) (r : Request) :
    (Payload.make configured (.ofItems items) r).messages =
      (groups (entries r items)).map .ofGroup := by
  have instructions : messages [] ((r.preface.map (Entry.text .system)).map Entry.utterance) =
      r.instructions?.toList.map .system := by
    rw [r.preface_eq]
    cases r.instructions? <;> rfl
  rw [Payload.make, ← map_utterance_rendered, ← instructions, messages, messages,
    ← List.foldl_append, ← List.map_append]
  have said := messages_flatten (fun _ => group_of_mem_groups)
    (List.isChain_getLast_head_splitBy joins (entries r items))
  have all : (groups (entries r items)).flatten = entries r items := List.flatten_splitBy _ _
  rwa [all] at said

theorem sentGroups_messages (configured : Option String) (items : List Item) (r : Request) :
    List.Forall₂ SentGroup (groups (entries r items))
      ((Payload.make configured (.ofItems items) r).messages.map Message.toJson) := by
  rw [messages_make, List.map_map]
  apply List.forall₂_map_right_iff.2
  apply List.forall₂_same.2
  intro g member
  exact (group_of_mem_groups member).sentGroup_ofGroup

/-- Whatever the history and the request, OpenAI is sent its messages arranged in this way. -/
theorem payload_messages_arranged {c : Converter} {r : Request} {items : List Item}
    (openai : c.vendor = .openai) (parses : Input.parse r.input = .ok items)
    (history : List Item) :
    ∃ body messages, c.payload history r = .ok body ∧
      body.get? "messages" = some (.arr messages) ∧ Arranged r (history ++ items) messages := by
  refine ⟨_, _, ?_, get?_messages (.make c.model (.ofItems (history ++ items)) r),
    arranged_of_groups (sentGroups_messages c.model (history ++ items) r)⟩
  simp only [Converter.payload, parses, Converter.payloadOfItems, openai]

/-- Under instructions, and with two calls after a text of the assistant. -/
theorem payload_messages_arranged_lookups :
    ∃ body messages, (Converter.ofVendor .openai).payload
        [.call ⟨"time", .null, none⟩, .ofModelText "Let me see", .call ⟨"weather", .null, none⟩,
          .unknown, .call ⟨"traffic", .null, some "c1"⟩]
        { Request.ofInput (.str "Thanks") with instructions := some " Be brief " } = .ok body ∧
      body.get? "messages" = some (.arr messages) ∧
      Arranged { Request.ofInput (.str "Thanks") with instructions := some " Be brief " }
        ([.call ⟨"time", .null, none⟩, .ofModelText "Let me see", .call ⟨"weather", .null, none⟩,
          .unknown, .call ⟨"traffic", .null, some "c1"⟩] ++ [.ofUserText "Thanks"]) messages :=
  payload_messages_arranged rfl rfl _

end ChatRelay.OpenAi
