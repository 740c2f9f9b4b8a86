import ChatRelay.Proofs.Conversation.Blocks
import ChatRelay.Proofs.Vendor.Failure
import ChatRelay.Proofs.Vendor.Reading

/-!
# The text of an array

Content is read from an array in two steps: the array is a list of blocks or not, and the blocks say
their texts. So an odd element is passed over if it is a block of a kind this library does not know.
If it is no block, it hides all others: then the array is no list of blocks, and says nothing.
-/
namespace ChatRelay

open Json (Members)

/-- The text that an element says, if its type is one of text. -/
def Json.spoken? (v : Json) : Option String :=
  (v.textAt? "type").bind fun kind =>
    if kind = "text" ∨ kind = "input_text" ∨ kind = "output_text" then v.textAt? "text" else none

/-- The text of an array: what its elements say, if all are blocks. -/
def Json.spokenText (elems : List Json) : String :=
  if ∀ v ∈ elems, v.IsBlock then String.join (elems.filterMap spoken?) else ""

namespace ContentBlock

theorem isText_iff (b : ContentBlock) :
    b.isText = true ↔ b.kind = "text" ∨ b.kind = "input_text" ∨ b.kind = "output_text" := by
  simp [isText, or_assoc]

/-- The block that an object stands for says what the object does. -/
theorem text?_ofJson (v : Json) : (ofJson v).text? = v.spoken? := by
  have string : (ofJson v).text.bind Json.asString? = v.textAt? "text" := by
    change ((v.get? "text").bind given?).bind Json.asString? = _
    rw [Json.textAt?]
    rcases v.get? "text" with _ | _ | _ <;> rfl
  have kind : (ofJson v).kind = (v.textAt? "type").getD "" := rfl
  rw [text?, string, Json.spoken?]
  cases said : v.textAt? "type" with
  | none =>
    rw [said] at kind
    rw [isText, kind]
    rfl
  | some type =>
    rw [said] at kind
    obtain rfl : (ofJson v).kind = type := kind
    exact if_congr (isText_iff _) rfl rfl

end ContentBlock

/-- The text of an array is what its elements say. -/
theorem Content.plainText_ofJson_arr {elems : List Json} (canonical : ∀ v ∈ elems, v.Canonical) :
    (ofJson (.arr elems)).plainText = Json.spokenText elems := by
  unfold Json.spokenText
  split
  · next blocks =>
    rw [ofJson_of_blocks canonical blocks, plainText, List.filterMap_map]
    congr 2
    exact funext ContentBlock.text?_ofJson
  · next odd => rw [ofJson_of_odd odd, plainText]

/-- What an OpenAI reply answers if the content of its first choice is an array. -/
theorem OpenAi.Reply.output_of_array {body choice : Json} {message : Members} {elems : List Json}
    (canonical : ∀ v ∈ elems, v.Canonical) (first : body.firstAt? "choices" = some choice)
    (holds : choice.get? "message" = some (.obj message))
    (content : Members.find? "content" message = some (.arr elems))
    (configured : Option String) (freshId session : String) :
    ∃ calls, (∀ item ∈ calls, ∃ c, item = Item.call c) ∧
      (response configured freshId session body).output =
        (if Json.spokenText elems = "" then [] else [.ofModelText (Json.spokenText elems)]) ++
          calls := by
  refine ⟨(ChatRelay.Reply.elements (.obj message) "tool_calls").filterMap callItem?,
    fun item member => ?_, ?_⟩
  · obtain ⟨call, -, made⟩ := List.mem_filterMap.1 member
    obtain ⟨function, -, rfl⟩ := Option.map_eq_some_iff.1 made
    exact ⟨_, rfl⟩
  · have found : message? body = some (.obj message) := by
      rw [message?, firstChoice?, ChatRelay.Reply.head?_elements, first]
      exact ChatRelay.Reply.object?_eq_some_iff.2 ⟨message, rfl, holds⟩
    have given : ChatRelay.Reply.field? (.obj message) "content" = some (.arr elems) := by
      rw [ChatRelay.Reply.field?, Json.get?, content]
      rfl
    have text : (textItem? (.obj message)).toList =
        if Json.spokenText elems = "" then [] else [.ofModelText (Json.spokenText elems)] := by
      rw [textItem?, given, Option.map_some, Content.plainText_ofJson_arr canonical]
      by_cases empty : Json.spokenText elems = "" <;> simp [empty, Option.filter]
    rw [← text]
    simp only [response, found, Option.map_some, Option.getD_some, messageItems]

/-- The text of an array is what its elements say if all of them are blocks, and else nothing, as
content of an item and as that of an OpenAI reply. -/
theorem array_text {elems : List Json} (canonical : (Json.arr elems).Canonical) :
    (∀ p, (Content.reader p (.value (.arr elems))).map Content.plainText =
        .ok (Json.spokenText elems)) ∧
      ∀ (c : Converter) (freshId session : String) (body choice : Json) (message : Members),
        c.vendor = .openai → body.firstAt? "choices" = some choice →
        choice.get? "message" = some (.obj message) →
        Members.find? "content" message = some (.arr elems) →
          ∃ calls, (∀ item ∈ calls, ∃ call, item = Item.call call) ∧
            (c.responseOfBody freshId session body).output =
              (if Json.spokenText elems = "" then [] else
                [.ofModelText (Json.spokenText elems)]) ++ calls := by
  have each : ∀ v ∈ elems, v.Canonical := Json.canonicalList_iff.1 canonical
  refine ⟨fun p => ?_, fun c freshId session body choice message openai first holds content => ?_⟩
  · have read : Content.reader p (.value (.arr elems)) = .ok (Content.ofJson (.arr elems)) :=
      congrArg Except.ok (Content.classify_eq_ofJson p (.arr elems))
    rw [read]
    exact congrArg Except.ok (Content.plainText_ofJson_arr each)
  · simp only [Converter.responseOfBody, openai]
    exact OpenAi.Reply.output_of_array each first holds content c.model freshId session

/-- A greeting in two blocks, with another element between them. -/
def greetingAround (odd : Json) : List Json :=
  [.obj [("text", .str "hello"), ("type", .str "input_text")], odd,
    .obj [("text", .str " there"), ("type", .str "output_text")]]

/-- An image is passed over, in a request and in a reply. -/
theorem array_text_image :
    let elems := greetingAround (.obj [("text", .obj [("alt", .str "a cat")]),
      ("type", .str "input_image")])
    (Json.arr elems).Canonical ∧
      (Content.reader .ofValue (.value (.arr elems))).map Content.plainText = .ok "hello there" ∧
      ∃ calls, (∀ item ∈ calls, ∃ call, item = Item.call call) ∧
        ((Converter.ofVendor .openai).responseOfBody "r" "s" (.obj [("choices", .arr [.obj
          [("message", .obj [("content", .arr elems)])]])])).output =
            [.ofModelText "hello there"] ++ calls := by
  intro elems
  have inOrder : "text" < "type" := by decide
  have canonical : (Json.arr elems).Canonical := by
    simp only [elems, greetingAround, Json.Canonical, Json.CanonicalList, Json.CanonicalMembers,
      Members.Sorted, List.pairwise_pair, List.pairwise_singleton, inOrder, and_self]
  exact ⟨canonical, (array_text canonical).1 .ofValue,
    (array_text canonical).2 (.ofVendor .openai) "r" "s" _ _ _ rfl rfl rfl rfl⟩

/-- An image whose type is null is no block, and hides the greeting around it. -/
theorem array_text_hidden :
    let elems := greetingAround (.obj [("image_url", .str "u"), ("type", .null)])
    (Content.reader .ofValue (.value (.arr elems))).map Content.plainText = .ok "" ∧
      String.join (elems.filterMap Json.spoken?) = "hello there" := by
  decide

end ChatRelay
