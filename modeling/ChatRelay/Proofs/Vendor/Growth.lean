import ChatRelay.Proofs.Transcript.Ledger
import ChatRelay.Proofs.Vendor.Agreement

/-!
# Payloads of growing conversations

A conversation that goes on is sent as before and then some more. All messages but the last are the
same; the last may have grown, but what it held is in it, unchanged and in the same order. The ids
of calls and results and the names of Gemini's results are those sent before.
-/
namespace ChatRelay

/-- All messages but the last are kept, and where the last one stood is one that has grown from it.
Without messages there is nothing to keep. -/
def Continues {α : Type} (grown : α → α → Prop) (ms ms' : List α) : Prop :=
  ms = [] ∨ ∃ init last last' rest,
    ms = init ++ [last] ∧ ms' = init ++ last' :: rest ∧ grown last last'

namespace Continues

variable {α β : Type} {grown : α → α → Prop}

theorem append (refl : ∀ m, grown m m) (ms more : List α) : Continues grown ms (ms ++ more) := by
  rcases List.eq_nil_or_concat' ms with empty | ⟨init, last, rfl⟩
  · exact .inl empty
  · exact .inr ⟨init, last, last, more, rfl, by simp, refl last⟩

theorem trans (tr : ∀ a b c, grown a b → grown b c → grown a c) {ms ms' ms'' : List α}
    (first : Continues grown ms ms') (second : Continues grown ms' ms'') :
    Continues grown ms ms'' := by
  rcases first with empty | ⟨init, last, last', rest, rfl, rfl, grows⟩
  · exact .inl empty
  right
  rcases second with empty | ⟨init', end', end'', rest', split, rfl, grows'⟩
  · simp at empty
  -- the second growth is at the same place as the first, or behind it
  rcases List.eq_nil_or_concat' rest with rfl | ⟨more, m, rfl⟩
  · obtain ⟨rfl, same⟩ := List.append_inj' split rfl
    cases same
    exact ⟨init, last, end'', rest', rfl, rfl, tr _ _ _ grows grows'⟩
  · have regroup : init ++ last' :: (more ++ [m]) = (init ++ last' :: more) ++ [m] := by simp
    obtain ⟨rfl, _⟩ := List.append_inj' (regroup.symm.trans split) rfl
    exact ⟨init, last, last', more ++ end'' :: rest', rfl, by simp, grows⟩

theorem map {γ : Type} {f : α → γ} {grown' : γ → γ → Prop} {ms ms' : List α}
    (continues : Continues (fun m m' => grown' (f m) (f m')) ms ms') :
    Continues grown' (ms.map f) (ms'.map f) := by
  rcases continues with rfl | ⟨init, last, last', rest, rfl, rfl, grows⟩
  · exact .inl rfl
  · exact .inr ⟨init.map f, f last, f last', rest.map f, by simp, by simp, grows⟩

end Continues

/-- A message that has grown: what it lists under a key is still there, in its order, and all else
is unchanged. -/
structure GrownUnder (key : String) (m m' : Json) : Prop where
  kept : (m.elementsAt key).Sublist (m'.elementsAt key)
  others : ∀ other, other ≠ key → m'.get? other = m.get? other

namespace GrownUnder

variable {key : String} {m m' m'' : Json}

theorem refl (key : String) (m : Json) : GrownUnder key m m := ⟨.refl _, fun _ _ => rfl⟩

theorem trans (first : GrownUnder key m m') (second : GrownUnder key m' m'') :
    GrownUnder key m m'' :=
  ⟨first.kept.trans second.kept,
    fun other different => (second.others other different).trans (first.others other different)⟩

/-- Adding one thing after another continues the messages if adding one does. -/
theorem foldl {α β : Type} {toJson : α → Json} {push : List α → β → List α}
    (step : ∀ ms x,
      Continues (fun m m' => GrownUnder key (toJson m) (toJson m')) ms (push ms x))
    (ms : List α) (l : List β) :
    Continues (GrownUnder key) (ms.map toJson) ((l.foldl push ms).map toJson) := by
  induction l generalizing ms with
  | nil => simpa using Continues.append (refl key) (ms.map toJson) []
  | cons x rest ih =>
    have first : Continues (GrownUnder key) (ms.map toJson) ((push ms x).map toJson) :=
      (step ms x).map
    refine Continues.trans ?_ first (ih (push ms x))
    exact fun _ _ _ => GrownUnder.trans

end GrownUnder

namespace Claude

/-- A block makes a new message, or is added to the last one. -/
theorem push_cases (ms : List Message) (x : Role × Block) :
    push ms x = ms ++ [⟨x.1, [x.2]⟩] ∨
      ∃ init last, ms = init ++ [last] ∧ push ms x = init ++ [last.add x.2] := by
  obtain ⟨role, b⟩ := x
  match ms with
  | [] => exact .inl rfl
  | [last] =>
    by_cases same : last.role = role
    · exact .inr ⟨[], last, rfl, by simp [push, same]⟩
    · exact .inl (by simp [push, same])
  | m :: m' :: rest =>
    rcases push_cases (m' :: rest) (role, b) with new | ⟨init, last, split, added⟩
    · exact .inl (by rw [push, new]; rfl)
    · exact .inr ⟨m :: init, last, by rw [split]; rfl, by rw [push, added]; rfl⟩

theorem grown_add (m : Message) (b : Block) :
    GrownUnder "content" m.toJson (m.add b).toJson := by
  have role : (m.add b).role = m.role := by
    unfold Message.add
    split <;> rfl
  have kept : m.content.Sublist (m.add b).content := by
    unfold Message.add
    split
    · -- a result goes between the results and the other blocks
      have between :=
        (List.sublist_cons_self b (m.content.dropWhile Block.isToolResult)).append_left
          (m.content.takeWhile Block.isToolResult)
      rwa [List.takeWhile_append_dropWhile] at between
    · exact List.sublist_append_left _ _
  refine ⟨?_, fun other different => get?_of_ne_content different role⟩
  rw [Json.elementsAt_of_get? (get?_content _), Json.elementsAt_of_get? (get?_content _)]
  exact kept.map Block.toJson

theorem push_continues (ms : List Message) (x : Role × Block) :
    Continues (fun m m' => GrownUnder "content" m.toJson m'.toJson) ms (push ms x) := by
  rcases push_cases ms x with new | ⟨init, last, rfl, added⟩
  · rw [new]
    exact .append (fun m => .refl _ m.toJson) ms _
  · rw [added]
    exact .inr ⟨init, last, last.add x.2, [], rfl, rfl, grown_add last x.2⟩

end Claude

namespace Gemini

/-- A part makes a new content, or is added to the last one. -/
theorem push_cases (cs : List Content) (x : Role × Part) :
    push cs x = cs ++ [⟨x.1, [x.2]⟩] ∨
      ∃ init last, cs = init ++ [last] ∧
        push cs x = init ++ [{ last with parts := last.parts ++ [x.2] }] := by
  obtain ⟨role, p⟩ := x
  match cs with
  | [] => exact .inl rfl
  | [last] =>
    by_cases same : last.role = role
    · exact .inr ⟨[], last, rfl, by simp [push, same]⟩
    · exact .inl (by simp [push, same])
  | c :: c' :: rest =>
    rcases push_cases (c' :: rest) (role, p) with new | ⟨init, last, split, added⟩
    · exact .inl (by rw [push, new]; rfl)
    · exact .inr ⟨c :: init, last, by rw [split]; rfl, by rw [push, added]; rfl⟩

theorem grown_append (c : Content) (p : Part) :
    GrownUnder "parts" c.toJson { c with parts := c.parts ++ [p] : Content }.toJson := by
  refine ⟨?_, fun other different => get?_of_ne_parts different rfl⟩
  rw [Json.elementsAt_of_get? (get?_parts _), Json.elementsAt_of_get? (get?_parts _)]
  exact (List.sublist_append_left _ _).map Part.toJson

theorem push_continues (cs : List Content) (x : Role × Part) :
    Continues (fun c c' => GrownUnder "parts" c.toJson c'.toJson) cs (push cs x) := by
  rcases push_cases cs x with new | ⟨init, last, rfl, added⟩
  · rw [new]
    exact .append (fun c => .refl _ c.toJson) cs _
  · rw [added]
    exact .inr ⟨init, last, _, [], rfl, rfl, grown_append last x.2⟩

end Gemini

namespace OpenAi

theorem grown_calls (text : Option String) (calls : List ToolCall) (c : ToolCall) :
    GrownUnder "tool_calls" (Message.assistant text calls).toJson
      (Message.assistant text (calls ++ [c])).toJson := by
  refine ⟨?_, fun other different => ?_⟩
  · rw [(assistant_toJson _ _).2.2, (assistant_toJson _ _).2.2]
    exact (List.sublist_append_left _ _).map ToolCall.toJson
  · have without (calls : List ToolCall) :
        (Message.assistant text calls).toJson.get? other =
          (Message.assistant text []).toJson.get? other := by
      cases calls with
      | nil => rfl
      | cons c rest =>
        simp [Message.toJson, Json.get?_object, Json.lookup_cons_of_ne different]
    rw [without, without calls]

theorem push_continues (ms : List Message) (u : Utterance) :
    Continues (fun m m' => GrownUnder "tool_calls" m.toJson m'.toJson) ms (push ms u) := by
  have single (m : Message) :
      Continues (fun m m' => GrownUnder "tool_calls" m.toJson m'.toJson) ms (ms ++ [m]) :=
    .append (fun m => .refl _ m.toJson) ms [m]
  cases u with
  | system text => exact single _
  | said speaker text => cases speaker <;> exact single _
  | call id name arguments =>
    rw [push]
    rcases attach_cases ms ⟨id, name, Arguments.text arguments⟩ with
      new | ⟨init, text, calls, rfl, added⟩
    · rw [new]
      exact single _
    · rw [added]
      exact .inr ⟨init, _, _, [], rfl, rfl, grown_calls text calls _⟩
  | result id name output => exact single _

end OpenAi

theorem Text.intercalate_cons (separator text : List Char) (texts : List (List Char)) :
    separator.intercalate (text :: texts) = text ++ texts.flatMap (separator ++ ·) := by
  induction texts generalizing text with
  | nil => simp
  | cons next rest ih => simp [List.intercalate_cons_cons, ih]

/-- Joined texts begin with the first ones joined, if there are any. -/
theorem Text.join_append {texts : List String} (nonempty : texts ≠ []) (separator : String)
    (more : List String) :
    ∃ rest, Text.join separator (texts ++ more) = Text.join separator texts ++ rest := by
  obtain ⟨text, texts, rfl⟩ := List.exists_cons_of_ne_nil nonempty
  refine ⟨String.ofList ((more.map String.toList).flatMap (separator.toList ++ ·)), ?_⟩
  rw [Text.join, Text.join, ← String.ofList_append, List.cons_append, List.map_cons, List.map_cons,
    Text.intercalate_cons, Text.intercalate_cons, List.map_append, List.flatMap_append,
    List.append_assoc]

def Gemini.systemParts (body : Json) : List Json :=
  ((body.get? "systemInstruction").map (·.elementsAt "parts")).getD []

theorem Gemini.systemParts_make (t : Transcript) (r : Request) :
    systemParts (Payload.make t r).toJson =
      (r.instructions?.toList ++ t.systemTexts).map fun s => (Part.text s).toJson := by
  rw [systemParts, get?_systemInstruction]
  cases r.instructions?.toList ++ t.systemTexts with
  | nil => rfl
  | cons text texts =>
    rw [Payload.systemInstruction]
    · simp [Json.elementsAt, Json.get?_object, Json.elements]
    · simp

namespace Vendor

def messagesKey : Vendor → String
  | .claude => "messages"
  | .openai => "messages"
  | .gemini => "contents"

/-- The key under which a message lists what may be added to it later. -/
def partsKey : Vendor → String
  | .claude => "content"
  | .openai => "tool_calls"
  | .gemini => "parts"

/-- The system's texts are still there, with more after them: Claude's is one text. -/
def KeepsSystem : Vendor → Json → Json → Prop
  | .claude, body, body' => ∀ text, body.textAt? "system" = some text →
    ∃ more, body'.textAt? "system" = some (text ++ more)
  | .openai, body, body' => OpenAi.sentSystem body <+: OpenAi.sentSystem body'
  | .gemini, body, body' => Gemini.systemParts body <+: Gemini.systemParts body'

/-- Calls and results are still sent with the ids and names they had, with more after them. -/
def KeepsCalls : Vendor → Json → Json → Prop
  | .claude, body, body' => Claude.sentCalls body <+: Claude.sentCalls body' ∧
    Claude.sentResults body <+: Claude.sentResults body'
  | .openai, body, body' => OpenAi.sentCalls body <+: OpenAi.sentCalls body' ∧
    OpenAi.sentResults body <+: OpenAi.sentResults body'
  | .gemini, body, body' => Gemini.sentCalls body <+: Gemini.sentCalls body' ∧
    Gemini.sentResults body <+: Gemini.sentResults body'

end Vendor

/-- A payload that says what another one does, and then more. -/
structure Prolongs (v : Vendor) (body body' : Json) : Prop where
  messages : Continues (GrownUnder v.partsKey) (body.elementsAt v.messagesKey)
    (body'.elementsAt v.messagesKey)
  system : v.KeepsSystem body body'
  calls : v.KeepsCalls body body'

variable (configured : Option String) (budget : Budget) (t more : Transcript) (r : Request)

theorem Transcript.systemTexts_append :
    (t ++ more).systemTexts = t.systemTexts ++ more.systemTexts := List.filterMap_append

theorem Claude.prolongs_make :
    Prolongs .claude (Payload.make configured budget t r).toJson
      (Payload.make configured budget (t ++ more) r).toJson where
  messages := by
    simp only [Vendor.messagesKey, Vendor.partsKey, Json.elementsAt_of_get? (get?_messages _),
      Payload.make]
    rw [Claude.messages, Claude.messages, List.filterMap_append, List.foldl_append]
    exact GrownUnder.foldl push_continues _ _
  system := by
    intro text holds
    rw [Json.textAt?, get?_system_make] at holds ⊢
    rw [Transcript.systemTexts_append, ← List.append_assoc]
    cases texts : r.instructions?.toList ++ t.systemTexts with
    | nil =>
      rw [texts] at holds
      cases holds
    | cons first rest =>
      rw [texts] at holds
      cases holds
      obtain ⟨added, joined⟩ := Text.join_append (List.cons_ne_nil first rest) "\n\n"
        more.systemTexts
      exact ⟨added, congrArg some joined⟩
  calls := by
    simp only [Vendor.KeepsCalls, sentCalls_make, sentResults_make, List.filterMap_append,
      List.prefix_append, and_self]

theorem OpenAi.prolongs_make :
    Prolongs .openai (Payload.make configured t r).toJson
      (Payload.make configured (t ++ more) r).toJson where
  messages := by
    simp only [Vendor.messagesKey, Vendor.partsKey, Json.elementsAt_of_get? (get?_messages _),
      Payload.make]
    rw [OpenAi.messages, OpenAi.messages, List.foldl_append]
    exact GrownUnder.foldl push_continues _ _
  system := by
    simp only [Vendor.KeepsSystem, sentSystem_make, Transcript.systemTexts_append,
      ← List.append_assoc, List.prefix_append]
  calls := by
    simp only [Vendor.KeepsCalls, sentCalls_make, sentResults_make, List.filterMap_append,
      List.map_append, List.prefix_append, and_self]

theorem Gemini.prolongs_make :
    Prolongs .gemini (Payload.make t r).toJson (Payload.make (t ++ more) r).toJson where
  messages := by
    simp only [Vendor.messagesKey, Vendor.partsKey, Json.elementsAt_of_get? (get?_contents _),
      Payload.make]
    rw [contents, contents, List.filterMap_append, List.foldl_append]
    exact GrownUnder.foldl push_continues _ _
  system := by
    simp only [Vendor.KeepsSystem, systemParts_make, Transcript.systemTexts_append,
      ← List.append_assoc, List.map_append, List.prefix_append]
  calls := by
    simp only [Vendor.KeepsCalls, sentCalls, sentResults, filterMap_sentParts,
      List.filterMap_append, List.prefix_append, and_self]

/-- More items prolong the payload to every vendor. -/
theorem prolongs_payloadOfItems (c : Converter) (items more : List Item) (r : Request) :
    Prolongs c.vendor (c.payloadOfItems items r) (c.payloadOfItems (items ++ more) r) := by
  obtain ⟨rest, same⟩ := Transcript.prefix_ofItems_append items more
  unfold Converter.payloadOfItems
  rw [← same]
  cases c.vendor with
  | claude => exact Claude.prolongs_make c.model c.budget _ rest r
  | openai => exact OpenAi.prolongs_make c.model _ rest r
  | gemini => exact Gemini.prolongs_make _ rest r

/-- The payload of a conversation is prolonged by that of any longer one under the same parameters,
wherever in the two the history ends and the new input begins. -/
theorem payload_prolongs {c : Converter} {r : Request} {input : Json}
    {history history' items items' more : List Item} (parses : Input.parse r.input = .ok items)
    (parses' : Input.parse input = .ok items')
    (longer : history' ++ items' = (history ++ items) ++ more) :
    ∃ body body', c.payload history r = .ok body ∧
      c.payload history' { r with input } = .ok body' ∧ Prolongs c.vendor body body' := by
  refine ⟨c.payloadOfItems (history ++ items) r,
    c.payloadOfItems (history' ++ items') { r with input }, ?_, ?_, ?_⟩
  · simp only [Converter.payload, parses]
  · simp only [Converter.payload, parses']
  · rw [longer]
    exact prolongs_payloadOfItems c (history ++ items) more r

/-- What was sent when the user had to wait is sent again when the tool's result is in. -/
theorem payload_prolongs_weatherReport :
    weatherReport ++ [.ofUserText "Thanks"] =
        (weatherReport.take 3 ++ []) ++ (weatherReport.drop 3 ++ [.ofUserText "Thanks"]) ∧
      ∃ body body',
        (Converter.ofVendor .claude).payload (weatherReport.take 3) (.ofInput (.arr []))
          = .ok body ∧
        (Converter.ofVendor .claude).payload weatherReport
          { Request.ofInput (.arr []) with input := .str "Thanks" } = .ok body' ∧
        Prolongs .claude body body' := by
  have longer : weatherReport ++ [.ofUserText "Thanks"] =
      (weatherReport.take 3 ++ []) ++ (weatherReport.drop 3 ++ [.ofUserText "Thanks"]) := rfl
  exact ⟨longer, payload_prolongs rfl rfl longer⟩

end ChatRelay
