import ChatRelay.Proofs.Transcript.Reordering
import ChatRelay.Proofs.Vendor.Growth
import ChatRelay.Proofs.Vendor.OpenAi.Arrangement

/-!
# Payloads with results in another order

Outputs that follow each other and name different pending calls may come in any order. Their results
are then sent in that order, and nothing else of the payload changes: not what stands around them,
nor what follows. With OpenAI the results are messages, with Claude and Gemini they are parts of one.
-/
namespace ChatRelay

open CallLedger

/-- Two lists are the same but for one part of each. -/
def Differ {α : Type} (part part' whole whole' : List α) : Prop :=
  ∃ before after, whole = before ++ part ++ after ∧ whole' = before ++ part' ++ after

theorem Differ.nil {α : Type} (whole : List α) : Differ [] [] whole whole :=
  ⟨whole, [], by simp, by simp⟩

/-- Two messages are the same but for one part of what they list under a key. -/
structure DifferUnder (key : String) (part part' : List Json) (m m' : Json) : Prop where
  listed : Differ part part' (m.elementsAt key) (m'.elementsAt key)
  others : ∀ other, other ≠ key → m'.get? other = m.get? other

namespace Vendor

/-- The result that is sent for an output to a call. -/
def result (p : PendingCall) (output : Json) : Vendor → Json
  | .claude => (Claude.Block.toolResult p.id (Output.text output)).toJson
  | .openai => (OpenAi.Message.tool p.id (Output.text output)).toJson
  | .gemini => (Gemini.Part.functionResponse p.name (Output.members output)).toJson

/-- The results of outputs that name different calls of a ledger. -/
def results (v : Vendor) (l : CallLedger) (outs : List FunctionOutput) : List Json :=
  outs.map fun o => v.result (l.resolve o) o.output

/-- Messages are the same but for results, which are messages or else parts of one. -/
def Exchanged (rs rs' ms ms' : List Json) : Vendor → Prop
  | .openai => Differ rs rs' ms ms'
  | v => rs = [] ∧ rs' = [] ∧ ms' = ms ∨
    ∃ m m', Differ [m] [m'] ms ms' ∧ DifferUnder v.partsKey rs rs' m m'

/-- Payloads are the same but for results among their messages. -/
structure Reordered (v : Vendor) (rs rs' : List Json) (body body' : Json) : Prop where
  messages : ∃ ms ms', body.get? v.messagesKey = some (.arr ms) ∧
    body'.get? v.messagesKey = some (.arr ms') ∧ v.Exchanged rs rs' ms ms'
  others : ∀ key, key ≠ v.messagesKey → body'.get? key = body.get? key

end Vendor

section

variable {v : Vendor} {l : CallLedger} {outs outs' : List FunctionOutput}

/-- Results are part of one message, which is the same for all outputs but for them. -/
theorem Vendor.exchanged_of_part {μ : Type} {toJson : μ → Json} (apart : v ≠ .openai)
    {ms : List FunctionOutput → List μ} {m : List FunctionOutput → μ} {before after : List μ}
    {front back : List Json} {fixed : String → Option Json}
    (holds : ∀ outs ≠ [], ms outs = before ++ m outs :: after)
    (listed : ∀ outs,
      (toJson (m outs)).elementsAt v.partsKey = front ++ v.results l outs ++ back)
    (others : ∀ outs other, other ≠ v.partsKey → (toJson (m outs)).get? other = fixed other)
    (perm : outs'.Perm outs) :
    v.Exchanged (v.results l outs) (v.results l outs') ((ms outs).map toJson)
      ((ms outs').map toJson) := by
  have part : v.results l outs = [] ∧ v.results l outs' = [] ∧
        (ms outs').map toJson = (ms outs).map toJson ∨
      ∃ m m', Differ [m] [m'] ((ms outs).map toJson) ((ms outs').map toJson) ∧
        DifferUnder v.partsKey (v.results l outs) (v.results l outs') m m' := by
    rcases eq_or_ne outs [] with rfl | nonempty
    · rw [perm.eq_nil]
      exact .inl ⟨rfl, rfl, rfl⟩
    have nonempty' : outs' ≠ [] := fun empty => nonempty (empty ▸ perm).symm.eq_nil
    have among : ∀ outs ≠ [], (ms outs).map toJson =
        before.map toJson ++ [toJson (m outs)] ++ after.map toJson := fun outs some => by
      rw [holds outs some, List.map_append, List.map_cons, List.append_cons]
    refine .inr ⟨_, _, ⟨_, _, among outs nonempty, among outs' nonempty'⟩,
      ⟨front, back, listed outs, listed outs'⟩, fun other different => ?_⟩
    exact (others outs' other different).trans (others outs other different).symm
  cases v with
  | openai => exact absurd rfl apart
  | claude => exact part
  | gemini => exact part

/-- Results are no texts of the system. -/
theorem Transcript.systemTexts_answers (first : Transcript) (l : CallLedger)
    (outs : List FunctionOutput) (rest : Transcript) :
    systemTexts (first ++ outs.map l.answer ++ rest) = first.systemTexts ++ rest.systemTexts := by
  have none : systemTexts (outs.map l.answer) = [] := by
    rw [systemTexts, List.filterMap_map]
    exact List.filterMap_eq_nil_iff.2 fun _ _ => rfl
  rw [systemTexts_append, systemTexts_append, none, List.append_nil]

end

variable (l : CallLedger) (first rest : Transcript) {outs outs' : List FunctionOutput}

namespace Claude

def resultBlocks (outs : List FunctionOutput) : List Block :=
  outs.map fun o => .toolResult (l.resolve o).id (Output.text o.output)

theorem filterMap_block?_answers (outs : List FunctionOutput) :
    (outs.map l.answer).filterMap block? = (resultBlocks l outs).map (Prod.mk .user) := by
  rw [List.filterMap_map, resultBlocks, List.map_map, ← List.filterMap_eq_map]
  rfl

/-- A run with results in it is a message with these results among the others, before all else. -/
theorem ofRun_resultBlocks (role : Role) (front back : List Block) :
    ∃ front' back', ∀ outs, Message.ofRun (role, front ++ resultBlocks l outs ++ back) =
      ⟨role, front' ++ resultBlocks l outs ++ back'⟩ := by
  refine ⟨front.filter Block.isToolResult, back.filter Block.isToolResult ++
    (front.filter (fun b => !b.isToolResult) ++ back.filter fun b => !b.isToolResult),
    fun outs => ?_⟩
  have results : ∀ b ∈ resultBlocks l outs, b.isToolResult = true := by
    simp [resultBlocks, Block.isToolResult]
  have kept : (resultBlocks l outs).filter Block.isToolResult = resultBlocks l outs :=
    List.filter_eq_self.2 results
  have left : (resultBlocks l outs).filter (fun b => !b.isToolResult) = [] :=
    List.filter_eq_nil_iff.2 fun b member => by simp [results b member]
  simp only [Message.ofRun, List.filter_append, kept, left, List.nil_append, List.append_assoc]

/-- Results that follow each other stand beside each other in one message, whatever they are. -/
theorem messages_answers :
    ∃ before front back after, ∀ outs ≠ [],
      messages (first ++ outs.map l.answer ++ rest) =
        before ++ ⟨.user, front ++ resultBlocks l outs ++ back⟩ :: after := by
  obtain ⟨runs, front, back, others, cuts⟩ :=
    Runs.cut_block (first.filterMap block?) .user (rest.filterMap block?)
  obtain ⟨front', back', message⟩ := ofRun_resultBlocks l .user front back
  refine ⟨runs.map Message.ofRun, front', back', others.map Message.ofRun, fun outs some => ?_⟩
  rw [messages_eq_cut, List.filterMap_append, List.filterMap_append, filterMap_block?_answers,
    cuts _ (by simpa [resultBlocks] using some), List.map_append, List.map_cons, message]

theorem get?_toJson_of_ne {key : String} (different : key ≠ "messages") {p p' : Payload}
    (same : p' = { p with messages := p'.messages }) : p'.toJson.get? key = p.toJson.get? key := by
  rw [same]
  simp only [Payload.toJson, Json.get?_object, List.reverse_append, List.lookup_append,
    List.reverse_singleton, Json.lookup_cons_of_ne different]

theorem reordered_make (configured : Option String) (budget : Budget) (r : Request)
    (perm : outs'.Perm outs) :
    Vendor.claude.Reordered (Vendor.claude.results l outs) (Vendor.claude.results l outs')
      (Payload.make configured budget (first ++ outs.map l.answer ++ rest) r).toJson
      (Payload.make configured budget (first ++ outs'.map l.answer ++ rest) r).toJson where
  messages := by
    obtain ⟨before, front, back, after, made⟩ := messages_answers l first rest
    have listed (outs : List FunctionOutput) :
        (Message.toJson ⟨.user, front ++ resultBlocks l outs ++ back⟩).elementsAt "content" =
          front.map Block.toJson ++ Vendor.claude.results l outs ++ back.map Block.toJson := by
      rw [Json.elementsAt_of_get? (get?_content _), List.map_append, List.map_append]
      simp only [resultBlocks, List.map_map]
      rfl
    exact ⟨_, _, get?_messages _, get?_messages _, Vendor.exchanged_of_part (by simp) made listed
      (fun _ _ different => get?_of_ne_content (m := ⟨.user, []⟩) different rfl) perm⟩
  others key different := get?_toJson_of_ne different (by
    simp only [Payload.make, Transcript.systemTexts_answers])

end Claude

namespace Gemini

def resultParts (outs : List FunctionOutput) : List Part :=
  outs.map fun o => .functionResponse (l.resolve o).name (Output.members o.output)

theorem filterMap_part?_answers (outs : List FunctionOutput) :
    (outs.map l.answer).filterMap part? = (resultParts l outs).map (Prod.mk .function) := by
  rw [List.filterMap_map, resultParts, List.map_map, ← List.filterMap_eq_map]
  rfl

/-- Results that follow each other stand beside each other in one content, whatever they are. -/
theorem contents_answers :
    ∃ before front back after, ∀ outs ≠ [],
      contents (first ++ outs.map l.answer ++ rest) =
        before ++ ⟨.function, front ++ resultParts l outs ++ back⟩ :: after := by
  obtain ⟨runs, front, back, others, cuts⟩ :=
    Runs.cut_block (first.filterMap part?) .function (rest.filterMap part?)
  refine ⟨runs.map Content.ofRun, front, back, others.map Content.ofRun, fun outs some => ?_⟩
  rw [contents_eq_cut, List.filterMap_append, List.filterMap_append, filterMap_part?_answers,
    cuts _ (by simpa [resultParts] using some), List.map_append, List.map_cons]
  rfl

theorem get?_toJson_of_ne {key : String} (different : key ≠ "contents") {p p' : Payload}
    (same : p' = { p with contents := p'.contents }) : p'.toJson.get? key = p.toJson.get? key := by
  rw [same]
  simp only [Payload.toJson, Json.get?_object, List.reverse_append, List.lookup_append,
    List.reverse_singleton, Json.lookup_cons_of_ne different]

theorem reordered_make (r : Request) (perm : outs'.Perm outs) :
    Vendor.gemini.Reordered (Vendor.gemini.results l outs) (Vendor.gemini.results l outs')
      (Payload.make (first ++ outs.map l.answer ++ rest) r).toJson
      (Payload.make (first ++ outs'.map l.answer ++ rest) r).toJson where
  messages := by
    obtain ⟨before, front, back, after, made⟩ := contents_answers l first rest
    have listed (outs : List FunctionOutput) :
        (Content.toJson ⟨.function, front ++ resultParts l outs ++ back⟩).elementsAt "parts" =
          front.map Part.toJson ++ Vendor.gemini.results l outs ++ back.map Part.toJson := by
      rw [Json.elementsAt_of_get? (get?_parts _), List.map_append, List.map_append]
      simp only [resultParts, List.map_map]
      rfl
    exact ⟨_, _, get?_contents _, get?_contents _, Vendor.exchanged_of_part (by simp) made listed
      (fun _ _ different => get?_of_ne_parts (c := ⟨.function, []⟩) different rfl) perm⟩
  others key different := get?_toJson_of_ne different (by
    simp only [Payload.make, Transcript.systemTexts_answers])

end Gemini

namespace OpenAi

def resultMessages (outs : List FunctionOutput) : List Message :=
  outs.map fun o => .tool (l.resolve o).id (Output.text o.output)

theorem foldl_push_answers (outs : List FunctionOutput) (ms : List Message) :
    (outs.map l.answer).foldl push ms = ms ++ resultMessages l outs := by
  induction outs generalizing ms with
  | nil => simp [resultMessages]
  | cons o rest ih =>
    rw [List.map_cons, List.foldl_cons, ih, answer, push, List.append_assoc]
    rfl

/-- Results are messages between those of what was said before and after them. No call that follows
joins a message before them. -/
theorem messages_answers (start : List Message) :
    ∃ before after, ∀ outs ≠ [],
      messages start (first ++ outs.map l.answer ++ rest) =
        before ++ resultMessages l outs ++ after := by
  refine ⟨messages start first, messages [] rest, fun outs some => ?_⟩
  have split : messages start (first ++ outs.map l.answer ++ rest) =
      messages (messages start first ++ resultMessages l outs) rest := by
    rw [messages, List.foldl_append, List.foldl_append, foldl_push_answers]
    rfl
  rw [split, messages_append]
  intro id name arguments more _
  obtain ⟨init, o, rfl⟩ := (List.eq_nil_or_concat' outs).resolve_left some
  rw [resultMessages, List.map_append, List.map_singleton, ← List.append_assoc]
  exact not_assistantLast_concat (by simp) _

theorem get?_toJson_of_ne {key : String} (different : key ≠ "messages") {p p' : Payload}
    (same : p' = { p with messages := p'.messages }) : p'.toJson.get? key = p.toJson.get? key := by
  rw [same]
  simp only [Payload.toJson, Json.get?_object, List.reverse_append, List.lookup_append,
    List.reverse_singleton, Json.lookup_cons_of_ne different]

theorem reordered_make (configured : Option String) (r : Request) (perm : outs'.Perm outs) :
    Vendor.openai.Reordered (Vendor.openai.results l outs) (Vendor.openai.results l outs')
      (Payload.make configured (first ++ outs.map l.answer ++ rest) r).toJson
      (Payload.make configured (first ++ outs'.map l.answer ++ rest) r).toJson where
  messages := by
    refine ⟨_, _, get?_messages _, get?_messages _, ?_⟩
    rcases eq_or_ne outs [] with rfl | nonempty
    · rw [perm.eq_nil]
      exact .nil _
    have nonempty' : outs' ≠ [] := fun empty => nonempty (empty ▸ perm).symm.eq_nil
    obtain ⟨before, after, made⟩ :=
      messages_answers l first rest (r.instructions?.toList.map .system)
    have sent : ∀ outs ≠ [],
        (Payload.make configured (first ++ outs.map l.answer ++ rest) r).messages.map
            Message.toJson =
          before.map Message.toJson ++ Vendor.openai.results l outs ++ after.map Message.toJson := by
      intro outs some
      rw [Payload.make, made outs some, List.map_append, List.map_append]
      simp only [resultMessages, List.map_map]
      rfl
    exact ⟨_, _, sent outs nonempty, sent outs' nonempty'⟩
  others key different := get?_toJson_of_ne different (by simp only [Payload.make])

end OpenAi

/-- The results of waiting calls change places in the payload, and nothing else does. -/
theorem reordered_payloadOfItems (c : Converter) (r : Request) {before : List Item}
    (nodup : ((Transcript.ledgerAfter .empty before).pending.map PendingCall.id).Nodup)
    (named : (Transcript.ledgerAfter .empty before).Named outs) (perm : outs'.Perm outs)
    (later : List Item) :
    let l := Transcript.ledgerAfter .empty before
    c.vendor.Reordered (c.vendor.results l outs) (c.vendor.results l outs')
      (c.payloadOfItems (before ++ outs.map .output ++ later) r)
      (c.payloadOfItems (before ++ outs'.map .output ++ later) r) := by
  intro l
  have distinct := (Transcript.reachable_ledgerAfter .empty before).distinct nodup
  unfold Converter.payloadOfItems
  rw [Transcript.ofItems_outputs distinct named, without_perm perm.symm,
    Transcript.ofItems_outputs distinct (named.perm perm)]
  cases c.vendor with
  | claude => exact Claude.reordered_make l _ _ c.model c.budget r perm
  | openai => exact OpenAi.reordered_make l _ _ c.model r perm
  | gemini => exact Gemini.reordered_make l _ _ r perm

/-- Outputs that name different pending calls of a ledger may be used in any order: each is resolved
to its own call, with its own name before that of the call, and the ledger is the same after them.
Where they follow each other in a conversation, wherever in it the history ends, their order is the
order of the results in the payload and changes nothing else of it. -/
theorem outputs_in_any_order :
    (∀ l outs outs', Reachable l → (l.pending.map PendingCall.id).Nodup → l.Named outs →
      outs'.Perm outs →
        l.outputs outs' = (outs'.map l.resolve, l.without outs) ∧
          ∀ o ∈ outs, ∃ p ∈ l.pending, o.callId = some p.id ∧
            l.resolve o = ⟨p.id, (given o.name).getD p.name⟩) ∧
      ∀ (c : Converter) (r : Request) input history history' items items' before outs outs' later,
        let l := Transcript.ledgerAfter .empty before
        Input.parse r.input = .ok items → Input.parse input = .ok items' →
        history ++ items = before ++ outs.map .output ++ later →
        history' ++ items' = before ++ outs'.map .output ++ later →
        (l.pending.map PendingCall.id).Nodup → l.Named outs → outs'.Perm outs →
          ∃ body body', c.payload history r = .ok body ∧
            c.payload history' { r with input } = .ok body' ∧
            c.vendor.Reordered (c.vendor.results l outs) (c.vendor.results l outs') body body' := by
  constructor
  · intro l outs outs' reachable nodup named perm
    exact outputs_of_perm (reachable.distinct nodup) named perm
  · intro c r input history history' items items' before outs outs' later l parses parses' split
      split' nodup named perm
    refine ⟨c.payloadOfItems (history ++ items) r,
      c.payloadOfItems (history' ++ items') { r with input }, ?_, ?_, ?_⟩
    · simp only [Converter.payload, parses]
    · simp only [Converter.payload, parses']
    · rw [split, split']
      exact reordered_payloadOfItems c r nodup named perm later

def twoCalls : List Item :=
  [.call ⟨"weather", .str "here", some "c1"⟩, .call ⟨"time", .null, some "c2"⟩]

/-- The outputs to them. The second has a name of its own. -/
def twoOutputs : List FunctionOutput :=
  [⟨some "c1", none, .str "rain"⟩, ⟨some "c2", some "clock", .str "noon"⟩]

/-- The later call is answered first. -/
theorem outputs_in_any_order_reversed :
    let l := Transcript.ledgerAfter .empty twoCalls
    l.outputs twoOutputs.reverse =
        ([⟨"c2", "clock"⟩, ⟨"c1", "weather"⟩], l.without twoOutputs) ∧
      ∃ body body',
        (Converter.ofVendor .gemini).payload (twoCalls ++ twoOutputs.map .output)
          (.ofInput (.str "Thanks")) = .ok body ∧
        (Converter.ofVendor .gemini).payload (twoCalls ++ twoOutputs.reverse.map .output)
          (.ofInput (.str "Thanks")) = .ok body' ∧
        Vendor.gemini.Reordered (Vendor.gemini.results l twoOutputs)
          (Vendor.gemini.results l twoOutputs.reverse) body body' := by
  intro l
  have reachable : l.Reachable := Transcript.reachable_ledgerAfter .empty twoCalls
  have nodup : (l.pending.map PendingCall.id).Nodup := by decide
  have named : l.Named twoOutputs := ⟨by decide, by decide⟩
  have perm := twoOutputs.reverse_perm
  exact ⟨(outputs_in_any_order.1 l _ _ reachable nodup named perm).1,
    outputs_in_any_order.2 (Converter.ofVendor .gemini) (.ofInput (.str "Thanks")) (.str "Thanks")
      _ _ _ _ twoCalls _ _ [.ofUserText "Thanks"] rfl rfl rfl rfl nodup named perm⟩

end ChatRelay
