import ChatRelay.Converter
import ChatRelay.Proofs.Json.Compact
import ChatRelay.Proofs.Vendor.Reading
import Mathlib.Data.List.Forall2

/-!
# Objects given as texts

Vendors that want texts write objects as texts, and those that want objects read texts as the
objects they hold. So it makes no difference to any vendor whether the arguments of a call, or the
output of a function, stand in the conversation as an object or as the text of this object.
-/
namespace ChatRelay

open Json (Members Writable)

section

variable {o : Members}

theorem heldObject?_compact (writable : Writable Json.Document.depthLimit (.obj o)) :
    heldObject? (Json.obj o).compact = some o := by
  rw [heldObject?, Json.ofString_compact writable]

theorem Arguments.members_text (writable : Writable Json.Document.depthLimit (.obj o)) :
    Arguments.members (.str (Arguments.text (.obj o))) = o := by
  rw [Arguments.text, Arguments.members, heldObject?_compact writable, Option.getD_some]
  all_goals exact nofun

theorem Output.members_text (writable : Writable Json.Document.depthLimit (.obj o)) :
    Output.members (.str (Output.text (.obj o))) = o := by
  rw [Output.text, Output.members, heldObject?_compact writable, Option.getD_some]
  all_goals exact nofun

end

/-- The same item, or one with the text of an object in place of the object. -/
inductive Item.Respelt : Item → Item → Prop where
  | same (item : Item) : Respelt item item
  | arguments {c : FunctionCall} {o : Members} (object : c.arguments = .obj o)
      (writable : Writable Json.Document.depthLimit (.obj o)) :
      Respelt (.call c) (.call { c with arguments := .str (Arguments.text c.arguments) })
  | output {a : FunctionOutput} {o : Members} (object : a.output = .obj o)
      (writable : Writable Json.Document.depthLimit (.obj o)) :
      Respelt (.output a) (.output { a with output := .str (Output.text a.output) })

/-- Utterances of which every vendor makes the same. -/
structure Utterance.Alike (u u' : Utterance) : Prop where
  claude : Claude.block? u' = Claude.block? u
  openai : ∀ ms, OpenAi.push ms u' = OpenAi.push ms u
  gemini : Gemini.part? u' = Gemini.part? u
  system : u'.system? = u.system?

namespace Utterance.Alike

theorem refl (u : Utterance) : u.Alike u := ⟨rfl, fun _ => rfl, rfl, rfl⟩

theorem call (id name : String) {o : Members}
    (writable : Writable Json.Document.depthLimit (.obj o)) :
    Alike (.call id name (.obj o)) (.call id name (.str (Arguments.text (.obj o)))) where
  claude := by rw [Claude.block?, Arguments.members_text writable]; rfl
  openai _ := rfl
  gemini := by rw [Gemini.part?, Arguments.members_text writable]; rfl
  system := rfl

theorem result (id name : String) {o : Members}
    (writable : Writable Json.Document.depthLimit (.obj o)) :
    Alike (.result id name (.obj o)) (.result id name (.str (Output.text (.obj o)))) where
  claude := rfl
  openai _ := rfl
  gemini := by rw [Gemini.part?, Output.members_text writable]; rfl
  system := rfl

end Utterance.Alike

namespace Transcript

/-- An item in another spelling says the same and leaves the same calls pending. -/
theorem step_respelt {item item' : Item} (respelt : item.Respelt item') (l : CallLedger) :
    List.Forall₂ Utterance.Alike (step l item).1.toList (step l item').1.toList ∧
      (step l item').2 = (step l item).2 := by
  cases respelt with
  | same item => exact ⟨List.forall₂_same.2 fun u _ => .refl u, rfl⟩
  | @arguments c o object writable =>
    refine ⟨?_, rfl⟩
    have alike := Utterance.Alike.call (l.call c).1.id (l.call c).1.name writable
    rw [← object] at alike
    exact .cons alike .nil
  | @output a o object writable =>
    refine ⟨?_, rfl⟩
    have alike := Utterance.Alike.result (l.output a).1.id (l.output a).1.name writable
    rw [← object] at alike
    exact .cons alike .nil

/-- Respelt items say the same to every vendor, whatever calls came before. -/
theorem after_respelt {items items' : List Item} (respelt : List.Forall₂ Item.Respelt items items')
    (l : CallLedger) : List.Forall₂ Utterance.Alike (after l items) (after l items') := by
  induction respelt generalizing l with
  | nil => exact .nil
  | cons first _ ih =>
    obtain ⟨said, ledger⟩ := step_respelt first l
    rw [after, after]
    exact List.rel_append said (ledger ▸ ih _)

end Transcript

section

variable {t t' : Transcript} (alike : List.Forall₂ Utterance.Alike t t')

include alike

theorem filterMap_alike {β : Type} {f : Utterance → Option β}
    (same : ∀ u u', Utterance.Alike u u' → f u' = f u) : t'.filterMap f = t.filterMap f := by
  induction alike with
  | nil => rfl
  | cons first _ ih => rw [List.filterMap_cons, List.filterMap_cons, same _ _ first, ih]

theorem systemTexts_alike : t'.systemTexts = t.systemTexts := by
  rw [Transcript.systemTexts_eq, Transcript.systemTexts_eq,
    filterMap_alike alike fun _ _ alike => alike.system]

theorem Claude.messages_alike : Claude.messages t' = Claude.messages t := by
  rw [Claude.messages, Claude.messages, filterMap_alike alike fun _ _ alike => alike.claude]

theorem Gemini.contents_alike : Gemini.contents t' = Gemini.contents t := by
  rw [Gemini.contents, Gemini.contents, filterMap_alike alike fun _ _ alike => alike.gemini]

theorem OpenAi.messages_alike (start : List OpenAi.Message) :
    OpenAi.messages start t' = OpenAi.messages start t := by
  unfold OpenAi.messages
  induction alike generalizing start with
  | nil => rfl
  | cons first _ ih => rw [List.foldl_cons, List.foldl_cons, first.openai, ih]

end

/-- Items in another spelling make the same payload for every vendor. -/
theorem Converter.payloadOfItems_respelt {items items' : List Item}
    (respelt : List.Forall₂ Item.Respelt items items') (c : Converter) (r : Request) :
    c.payloadOfItems items' r = c.payloadOfItems items r := by
  have alike := Transcript.after_respelt respelt .empty
  unfold Converter.payloadOfItems Transcript.ofItems
  cases c.vendor with
  | claude =>
    simp only [Claude.Payload.make, Claude.messages_alike alike, systemTexts_alike alike]
  | openai => simp only [OpenAi.Payload.make, OpenAi.messages_alike alike]
  | gemini =>
    simp only [Gemini.Payload.make, Gemini.contents_alike alike, systemTexts_alike alike]

/-- The text of an object stands for the object wherever one is wanted, and a conversation with some
objects given as their texts, in its history or in the new input, makes the same payload. -/
theorem payload_respelt :
    (∀ o : Members, Writable Json.Document.depthLimit (.obj o) →
      Arguments.members (.str (Arguments.text (.obj o))) = o ∧
        Output.members (.str (Output.text (.obj o))) = o) ∧
    ∀ (c : Converter) (r : Request) (input : Json) (history history' items items' : List Item),
      Input.parse r.input = .ok items → Input.parse input = .ok items' →
      List.Forall₂ Item.Respelt (history ++ items) (history' ++ items') →
        ∃ payload, c.payload history r = .ok payload ∧
          c.payload history' { r with input } = .ok payload := by
  refine ⟨fun o writable => ⟨Arguments.members_text writable, Output.members_text writable⟩, ?_⟩
  intro c r input history history' items items' parses parses' respelt
  refine ⟨c.payloadOfItems (history ++ items) r, by rw [Converter.payload, parses], ?_⟩
  rw [Converter.payload, parses', ← Converter.payloadOfItems_respelt respelt]
  cases vendor : c.vendor <;> simp only [Converter.payloadOfItems, vendor] <;> rfl

/-- A call whose arguments hold a list, a line break and a negative number, and an answer to it. -/
theorem payload_respelt_place :
    let place : Members := [
      ("lines", .arr [.str "a\n\u0001", .num (.whole ⟨-3, by decide, by decide⟩)]),
      ("said", .str "\"x\"")]
    let lookup (arguments : Json) : Item := .call ⟨"lookup", arguments, some "c1"⟩
    let answer (output : Json) : Json := .arr [.obj [
      ("content", .obj [("call_id", .str "c1"), ("output", output)]),
      ("type", .str "function_call_output")]]
    Arguments.members (.str (Arguments.text (.obj place))) = place ∧ ∃ payload,
      (Converter.ofVendor .gemini).payload [lookup (.obj place)]
        (.ofInput (answer (.obj place))) = .ok payload ∧
      (Converter.ofVendor .gemini).payload [lookup (.str (Arguments.text (.obj place)))]
        (.ofInput (answer (.str (Output.text (.obj place))))) = .ok payload := by
  intro place lookup answer
  have writable : Writable Json.Document.depthLimit (.obj place) := by
    have sorted : Members.Sorted place := List.pairwise_pair.2 (by decide)
    refine ⟨⟨sorted, ?_⟩, ?_, ?_⟩
    · simp [place, Json.Canonical, Json.CanonicalMembers, Json.CanonicalList]
    · simp [place, Json.Integral, Json.IntegralMembers, Json.IntegralList]
    · simp [place, Json.depth, Json.depthMembers, Json.depthList, Json.Document.depthLimit]
  refine ⟨(payload_respelt.1 place writable).1, ?_⟩
  exact payload_respelt.2 (.ofVendor .gemini) (.ofInput (answer (.obj place))) _ _ _
    [.output ⟨some "c1", none, .obj place⟩]
    [.output ⟨some "c1", none, .str (Output.text (.obj place))⟩] rfl rfl
    (.cons (.arguments rfl writable) (.cons (.output rfl writable) .nil))

end ChatRelay
