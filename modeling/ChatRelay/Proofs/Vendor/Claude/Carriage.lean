import ChatRelay.Proofs.Vendor.Claude.Grouping
import ChatRelay.Proofs.Vendor.Reading

/-!
# What Claude is told

The texts, calls and results that are read back from a payload to Claude are those of the
transcript, in its order. Tool results change their place among the blocks of a message, but
neither among themselves nor do the other blocks.
-/
namespace ChatRelay.Claude

/-- Whose texts stand under a role. -/
def speaker? : String → Option Speaker
  | "assistant" => some .model
  | "user" => some .client
  | _ => none

/-- The blocks of a payload, each with the role of its message. -/
def sentBlocks (body : Json) : List (Option String × Json) :=
  (body.elementsAt "messages").flatMap fun m =>
    (m.elementsAt "content").map (Prod.mk (m.textAt? "role"))

def sentText? (x : Option String × Json) : Option (Speaker × String) :=
  if x.2.textAt? "type" = some "text" then do
    return (← x.1.bind speaker?, ← x.2.textAt? "text")
  else none

def sentCall? (x : Option String × Json) : Option SentCall :=
  if x.2.textAt? "type" = some "tool_use" then do
    return ⟨← x.2.textAt? "id", ← x.2.textAt? "name", ← x.2.get? "input"⟩
  else none

def sentResult? (x : Option String × Json) : Option (String × String) :=
  if x.2.textAt? "type" = some "tool_result" then do
    return (← x.2.textAt? "tool_use_id", ← x.2.textAt? "content")
  else none

/-- The texts of a payload and whose they are. -/
def sentTexts (body : Json) : List (Speaker × String) := (sentBlocks body).filterMap sentText?

def sentCalls (body : Json) : List SentCall := (sentBlocks body).filterMap sentCall?

/-- The results of a payload with the ids of their calls. -/
def sentResults (body : Json) : List (String × String) := (sentBlocks body).filterMap sentResult?

/-- A block as it is sent, with the role of its message. -/
def sent (x : Role × Block) : Option String × Json := (some x.1.name, x.2.toJson)

theorem get?_content (m : Message) :
    m.toJson.get? "content" = some (.arr (m.content.map Block.toJson)) := by
  simp [Message.toJson, Json.get?_object]

/-- Under the other keys stands what depends on the role alone. -/
theorem get?_of_ne_content {key : String} (different : key ≠ "content") {m m' : Message}
    (same : m'.role = m.role) : m'.toJson.get? key = m.toJson.get? key := by
  simp only [Message.toJson, Json.get?_object, same, List.reverse_cons, List.reverse_nil,
    List.nil_append, List.cons_append, Json.lookup_cons_of_ne different]

/-- The blocks read from a payload are those of its messages, each under its role. -/
theorem sentBlocks_toJson (p : Payload) : sentBlocks p.toJson = (flat p.messages).map sent := by
  have ofMessage (m : Message) :
      (m.toJson.elementsAt "content").map (Prod.mk (m.toJson.textAt? "role")) =
        (m.content.map (Prod.mk m.role)).map sent := by
    have role : m.toJson.textAt? "role" = some m.role.name := by
      simp [Message.toJson, Json.textAt?, Json.get?_object, List.lookup_cons, Json.asString?]
    rw [Json.elementsAt_of_get? (get?_content m), role, List.map_map, List.map_map]
    rfl
  rw [sentBlocks, Json.elementsAt_of_get? (get?_messages p), List.flatMap_map, flat,
    List.map_flatMap]
  exact List.flatMap_congr fun m _ => ofMessage m

theorem speaker?_name (role : Role) :
    speaker? role.name = some (match role with | .assistant => .model | .user => .client) := by
  cases role <;> rfl

/-- The block of an utterance tells what the utterance does. -/
theorem sent?_block (u : Utterance) :
    ((block? u).bind fun x => sentText? (sent x)) = u.said? ∧
      ((block? u).bind fun x => sentCall? (sent x)) = u.call? ∧
      ((block? u).bind fun x => sentResult? (sent x)) = u.result? := by
  rcases u with text | ⟨_ | _, text⟩ | ⟨id, name, arguments⟩ | ⟨id, name, output⟩ <;>
    simp [block?, sent, sentText?, sentCall?, sentResult?, Block.toJson, Json.textAt?,
      Json.get?_object, List.lookup_cons, Json.asString?, speaker?_name, Utterance.said?,
      Utterance.call?, Utterance.result?]

theorem type_sent_iff (x : Role × Block) :
    (sent x).2.textAt? "type" = some "tool_result" ↔ x.2.isToolResult = true := by
  obtain ⟨role, b⟩ := x
  cases b <;>
    simp [sent, Block.toJson, Json.textAt?, Json.get?_object, List.lookup_cons, Json.asString?,
      Block.isToolResult]

/-- What is read of tool results only, or of other blocks only, is in the order of the runs. -/
theorem filterMap_flat {α : Type} {f : Role × Block → Option α}
    (oneKind : (∀ x, x.2.isToolResult = true → f x = none) ∨
      ∀ x, x.2.isToolResult = false → f x = none) (runs : List (Role × List Block)) :
    (flat (runs.map Message.ofRun)).filterMap f = (Runs.flat runs).filterMap f := by
  have kept (role : Role) (p : Block → Bool) (bs : List Block)
      (others : ∀ b, p b = false → f (role, b) = none) :
      (bs.filter p).filterMap (fun b => f (role, b)) = bs.filterMap fun b => f (role, b) := by
    rw [List.filterMap_filter]
    refine List.filterMap_congr fun b _ => ?_
    cases holds : p b with
    | true => rfl
    | false => exact (others b holds).symm
  have left (role : Role) (p : Block → Bool) (bs : List Block)
      (absent : ∀ b, p b = true → f (role, b) = none) :
      (bs.filter p).filterMap (fun b => f (role, b)) = [] := by
    rw [List.filterMap_eq_nil_iff]
    exact fun b member => absent b (List.mem_filter.1 member).2
  rw [flat, Runs.flat, List.filterMap_flatMap, List.filterMap_flatMap, List.flatMap_map]
  refine List.flatMap_congr fun run _ => ?_
  rw [Message.ofRun, List.filterMap_map, List.filterMap_map, List.filterMap_append]
  rcases oneKind with notResults | onlyResults
  · have first := left run.1 _ run.2 fun b => notResults (run.1, b)
    have second := kept run.1 (fun b => !b.isToolResult) run.2 fun b others =>
      notResults (run.1, b) (by simpa using others)
    exact (congrArg₂ (· ++ ·) first second).trans (List.nil_append _)
  · have first := kept run.1 _ run.2 fun b => onlyResults (run.1, b)
    have second := left run.1 (fun b => !b.isToolResult) run.2 fun b others =>
      onlyResults (run.1, b) (by simpa using others)
    exact (congrArg₂ (· ++ ·) first second).trans (List.append_nil _)

/-- What is read of the blocks of a payload is what it is of the transcript's utterances. -/
theorem filterMap_sentBlocks {α : Type} {f : Option String × Json → Option α}
    {g : Utterance → Option α} (agrees : ∀ u, ((block? u).bind fun x => f (sent x)) = g u)
    (oneKind : (∀ x, x.2.isToolResult = true → f (sent x) = none) ∨
      ∀ x, x.2.isToolResult = false → f (sent x) = none)
    (configured : Option String) (budget : Budget) (t : Transcript) (r : Request) :
    (sentBlocks (Payload.make configured budget t r).toJson).filterMap f = t.filterMap g := by
  rw [sentBlocks_toJson, List.filterMap_map, Payload.make, messages_eq_cut]
  refine (filterMap_flat oneKind _).trans ?_
  rw [Runs.flat_cut, List.filterMap_filterMap]
  exact List.filterMap_congr fun u _ => agrees u

variable (configured : Option String) (budget : Budget) (t : Transcript) (r : Request)

theorem sentTexts_make :
    sentTexts (Payload.make configured budget t r).toJson = t.filterMap Utterance.said? := by
  refine filterMap_sentBlocks (fun u => (sent?_block u).1) (.inl fun x result => ?_) _ _ _ _
  rw [sentText?, (type_sent_iff x).2 result, if_neg (by simp)]

theorem sentCalls_make :
    sentCalls (Payload.make configured budget t r).toJson = t.filterMap Utterance.call? := by
  refine filterMap_sentBlocks (fun u => (sent?_block u).2.1) (.inl fun x result => ?_) _ _ _ _
  rw [sentCall?, (type_sent_iff x).2 result, if_neg (by simp)]

theorem sentResults_make :
    sentResults (Payload.make configured budget t r).toJson = t.filterMap Utterance.result? := by
  refine filterMap_sentBlocks (fun u => (sent?_block u).2.2) (.inr fun x other => ?_) _ _ _ _
  rw [sentResult?, if_neg]
  rw [type_sent_iff, other]
  exact Bool.false_ne_true

end ChatRelay.Claude
