import ChatRelay.Proofs.Conversation.Input
import Mathlib.Data.List.Permutation

/-!
# History and new input

A payload tells of a history and of new input without a seam: what is recorded and what is new make
one list of items. Items that have been read may therefore stand on either side. They come back as
they were when they are written as input, unless a content block in the text from which they were
read repeats the key of its type or of its text: then a message keeps as raw JSON what is a list of
blocks once it is written.
-/
namespace ChatRelay

open Json (Document Members Place Reader)
open Json.Reader (bind_eq_ok)

/-- Items that have been read as a list from a document in which no content block repeats the keys
of a block, wherever the document stands, and lists of such items put together. -/
inductive Decoded : List Item → Prop where
  | read {p : Place} {d : Document} {items : List Item}
      (apart : ∀ elems ending, d.expose = .arr elems ending → ∀ e ∈ elems, Item.BlocksApart e)
      (reads : Reader.list Item.reader p d = .ok items) : Decoded items
  | append {items more : List Item} (first : Decoded items) (second : Decoded more) :
      Decoded (items ++ more)

namespace Decoded

/-- All that is read from a value, in which no key can be repeated. -/
theorem ofJson {v : Json} {items : List Item}
    (reads : Reader.ofJson (Reader.list Item.reader) v = .ok items) : Decoded items := by
  refine .read (fun elems ending stands => ?_) reads
  cases v <;> cases stands
  exact List.forall_mem_map.2 fun w _ => Item.blocksApart_value w

/-- What is read from a text in which no content block repeats a key. -/
theorem ofLetters {ls : List Letter} {d : Document} {trailing : Option Json.TextFault}
    {items : List Item} (stands : Document.ofLetters ls = (d, trailing))
    (apart : ∀ elems ending, d.expose = .arr elems ending → ∀ e ∈ elems, Item.BlocksApart e)
    (reads : Reader.ofLetters (Reader.list Item.reader) ls = .ok items) : Decoded items := by
  rw [Reader.ofLetters, stands] at reads
  obtain ⟨read, list, finished⟩ := bind_eq_ok.1 reads
  obtain ⟨-, rfl⟩ := Reader.finish_eq_ok (Reader.liftText_eq_ok.1 finished)
  exact .read apart list

/-- All items that have been decoded are settled, by induction on how they were put together. -/
theorem settled {items : List Item} (decoded : Decoded items) : ∀ i ∈ items, i.Settled := by
  induction decoded with
  | read apart reads =>
    obtain ⟨elems, q, stands, -, elements⟩ := Reader.exists_of_list reads
    intro i member
    obtain ⟨e, among, read⟩ := Reader.mapM_yields elements i member
    exact Item.settled_of_reads (apart elems none stands e among) read
  | append _ _ first second =>
    intro i member
    exact (List.mem_append.1 member).elim (first i) (second i)

end Decoded

namespace Input

/-- A settled item is what it is written as denotes. -/
theorem denotes_toJson {i : Item} (settled : i.Settled) : Denotes i.toJson i := by
  obtain ⟨kind, fields, written⟩ : ∃ kind fields, i.toJson = Item.tagged kind fields := by
    cases i <;> exact ⟨_, _, rfl⟩
  have typed :
      (Members.find? "type" (Members.ofList (("type", .str kind.name) :: fields))).isSome := by
    rw [Members.find?_ofList, List.reverse_cons, List.lookup_append, Option.isSome_or]
    simp
  have reads : Reader.ofJson Item.reader i.toJson = .ok i :=
    Item.reads_toJson settled .ofValue Place.inValue_ofValue
  rw [written] at reads ⊢
  exact ⟨_, .typed typed, reads⟩

/-- Settled items come back as they were when they are written as input. -/
theorem parse_toJson {items : List Item} (settled : ∀ i ∈ items, i.Settled) :
    parse (.arr (items.map Item.toJson)) = .ok items := by
  rw [parse, parseFrom_eq_ok_iff, List.forall₂_map_left_iff, List.forall₂_same]
  exact fun i member => denotes_toJson (settled i member)

end Input

/-- A payload depends on the input only through its items. -/
theorem Converter.payload_of_parse {c : Converter} {r : Request} {input : Json} {items : List Item}
    (parses : Input.parse input = .ok items) (history : List Item) :
    c.payload history { r with input := input } = .ok (c.payloadOfItems (history ++ items) r) := by
  simp only [payload, parses]
  rfl

/-- It does not matter where history ends and new input begins: items that have been read may stand
on either side, and a bare text is a message of the user. The payload is always that of all items.
-/
theorem payload_boundary (c : Converter) (history : List Item) (r : Request) :
    (∀ ys zs, Decoded (ys ++ zs) →
      c.payload (history ++ ys) { r with input := .arr (zs.map Item.toJson) } =
          c.payload history { r with input := .arr ((ys ++ zs).map Item.toJson) } ∧
        c.payload history { r with input := .arr ((ys ++ zs).map Item.toJson) } =
          .ok (c.payloadOfItems (history ++ (ys ++ zs)) r)) ∧
      ∀ s, c.payload history { r with input := .str s } =
          c.payload (history ++ [.ofUserText s]) { r with input := .arr [] } ∧
        c.payload history { r with input := .str s } =
          .ok (c.payloadOfItems (history ++ [.ofUserText s]) r) := by
  constructor
  · intro ys zs decoded
    have settled := decoded.settled
    have later : ∀ i ∈ zs, i.Settled := fun i member => settled i (List.mem_append_right ys member)
    have whole := c.payload_of_parse (r := r) (Input.parse_toJson settled) history
    refine ⟨?_, whole⟩
    rw [whole, c.payload_of_parse (Input.parse_toJson later) (history ++ ys), List.append_assoc]
  · intro s
    have bare : Input.parse (.str s) = .ok [.ofUserText s] := rfl
    have none : Input.parse (.arr []) = .ok [] := rfl
    have whole := c.payload_of_parse (r := r) bare history
    refine ⟨?_, whole⟩
    rw [whole, c.payload_of_parse none, List.append_nil]

/-- A text of one item, which the model said. -/
def helloText : List Letter :=
  Letter.ofString "[\x7b\"type\":\"text\",\"content\":\"Hello\"\x7d]"

theorem decoded_helloText : Decoded [.ofModelText "Hello"] := by
  have stands : Document.ofLetters helloText = (.arr [.obj [(.ok "type", .str (.ok "text")),
      (.ok "content", .str (.ok "Hello"))] none] none, none) := by cbv
  refine .ofLetters stands (fun elems ending exposed => ?_) (by cbv)
  cases exposed
  rw [List.forall_mem_singleton]
  constructor
  · -- The content is a text, in which there is no block.
    intro ms ending exposed t _ _ _ m member _ elems ending' isArray
    cases exposed
    simp only [List.mem_cons, List.not_mem_nil, or_false] at member
    rcases member with rfl | rfl <;> cases isArray
  · intro t rest ending exposed
    cases exposed

/-- A call without arguments. -/
def weatherCall : Item := .call ⟨"weather", .null, none⟩

/-- What the model said, read from a text, may be history, and a call after it, read from a value,
may be new. -/
theorem payload_boundary_weatherCall :
    Decoded ([.ofModelText "Hello"] ++ [weatherCall]) ∧
      (Converter.ofVendor .openai).payload ([.ofUserText "Hi"] ++ [.ofModelText "Hello"])
          (.ofInput (.arr ([weatherCall].map Item.toJson))) =
        (Converter.ofVendor .openai).payload [.ofUserText "Hi"]
          (.ofInput (.arr ([.ofModelText "Hello", weatherCall].map Item.toJson))) := by
  have call : Decoded [weatherCall] := .ofJson
    (v := .arr [
      .obj [("content", .obj [("name", .str "weather")]), ("type", .str "function_call")]]) rfl
  have decoded := decoded_helloText.append call
  have boundary := payload_boundary (.ofVendor .openai) [.ofUserText "Hi"] (.ofInput .null)
  exact ⟨decoded, (boundary.1 _ _ decoded).1⟩

/-- A text of a message whose block has two texts. -/
def twoTexts : List Letter :=
  Letter.ofString "[\x7b\"type\":\"message\",\"content\":" ++
    Letter.ofString "[\x7b\"type\":\"text\",\"text\":\"a\",\"text\":\"b\"\x7d]\x7d]"

/-- A message that is read from a text in which a block repeats a key says nothing as history and
something as input. -/
theorem boundary_shows_twoTexts : ∃ item body body',
    Reader.ofLetters (Reader.list Item.reader) twoTexts = .ok [item] ∧
      (Converter.ofVendor .claude).payload ([] ++ [item]) (.ofInput (.arr [])) = .ok body ∧
      (Converter.ofVendor .claude).payload [] (.ofInput (.arr ([item].map Item.toJson))) =
        .ok body' ∧
      body.get? "messages" = some (.arr []) ∧
      body'.get? "messages" = some (.arr [
        .obj [("content", .arr [.obj [("text", .str "b"), ("type", .str "text")]]),
          ("role", .str "user")]]) ∧ body ≠ body' := by
  have reads : Reader.ofLetters (Reader.list Item.reader) twoTexts =
      .ok [.message .user (.other (.arr [.obj [("text", .str "b"), ("type", .str "text")]]))] := by
    cbv
  refine ⟨_, _, _, reads, rfl, rfl, rfl, rfl, ?_⟩
  intro same
  have messages := congrArg (fun v => v.get? "messages") same
  cases messages

end ChatRelay
