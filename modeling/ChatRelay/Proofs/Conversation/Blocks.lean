import ChatRelay.Proofs.Conversation.Content
import Mathlib.Data.List.Forall2

/-!
# Content of every shape

Every value is content. A string is a text, an array of nothing but blocks is a list of blocks, and
all else is kept as it is. What is written of content is the value that it was read from, but for
two things: a block without a type has an empty one, and a text that is null is gone.
-/
namespace ChatRelay

open Json (Document Members Place Reader)
open Json.Reader (bind_eq_ok)

namespace Json

/-- A block is an object that has no type, or a text as type. -/
structure IsBlock (v : Json) : Prop where
  object : v.kind = .object
  typed : ∀ t ∈ v.get? "type", t.kind = .string

instance (v : Json) : Decidable v.IsBlock :=
  decidable_of_iff (v.kind = .object ∧ ∀ t ∈ v.get? "type", t.kind = .string)
    ⟨fun ⟨object, typed⟩ => ⟨object, typed⟩, fun ⟨object, typed⟩ => ⟨object, typed⟩⟩

/-- An array of nothing but blocks. -/
def IsBlockList (v : Json) : Prop := ∃ elems, v = .arr elems ∧ ∀ e ∈ elems, e.IsBlock

/-- Members with a type, an empty one if there was none. -/
def Members.typed (ms : Members) : Members :=
  if (find? "type" ms).isSome then ms else insert "type" (.str "") ms

/-- The members of a block with a type and without a text that is null. -/
def Members.completed (ms : Members) : Members :=
  if (find? "text" ms).any isNull then erase "text" (typed ms) else typed ms

def completedBlock : Json → Json
  | .obj ms => .obj (Members.completed ms)
  | v => v

/-- A value as it is written after it has been read as content. -/
def completed : Json → Json
  | .arr elems => .arr (if ∀ e ∈ elems, e.IsBlock then elems.map completedBlock else elems)
  | v => v

theorem IsBlock.exists_members {v : Json} (block : v.IsBlock) : ∃ ms, v = .obj ms := by
  cases v with
  | obj ms => exact ⟨ms, rfl⟩
  | _ => cases block.object

theorem IsBlock.exists_type {ms : Members} (block : (Json.obj ms).IsBlock) :
    ∃ type : Option String, Members.find? "type" ms = type.map .str := by
  cases found : Members.find? "type" ms with
  | none => exact ⟨none, rfl⟩
  | some t =>
    have string : t.kind = .string := block.typed t found
    cases t with
    | str type => exact ⟨some type, rfl⟩
    | _ => cases string

namespace Members

theorem sorted_completed {ms : Members} (sorted : Sorted ms) : Sorted (completed ms) := by
  have sorted_typed : Sorted (typed ms) := by
    unfold typed
    split
    · exact sorted
    · exact sorted_insert sorted "type" _
  unfold completed
  split
  · exact sorted_typed.filter _
  · exact sorted_typed

theorem find?_typed_self (ms : Members) :
    find? "type" (typed ms) = some ((find? "type" ms).getD (.str "")) := by
  unfold typed
  cases found : find? "type" ms with
  | none => exact find?_insert_self "type" _ ms
  | some t => exact found

theorem find?_typed_of_ne {key : String} (noType : key ≠ "type") (ms : Members) :
    find? key (typed ms) = find? key ms := by
  unfold typed
  split
  · rfl
  · exact find?_insert_of_ne noType _ _

theorem find?_completed_of_ne {key : String} (noText : key ≠ "text") (ms : Members) :
    find? key (completed ms) = find? key (typed ms) := by
  unfold completed
  split
  · exact find?_erase_of_ne noText _
  · rfl

theorem find?_completed_text (ms : Members) :
    find? "text" (completed ms) = (find? "text" ms).bind ContentBlock.given? := by
  have same : find? "text" (typed ms) = find? "text" ms := find?_typed_of_ne (by decide) ms
  unfold completed
  cases found : find? "text" ms with
  | none => exact same.trans found
  | some t =>
    simp only [Option.any_some, Option.bind_some, ContentBlock.given?]
    split
    · exact find?_erase_self "text" _
    · exact same.trans found

end Members
end Json

namespace ContentBlock

def ofJson (v : Json) : ContentBlock where
  kind := ((v.get? "type").bind Json.asString?).getD ""
  text := (v.get? "text").bind given?
  extra :=
    match v with
    | .obj ms => ms.filter isExtra
    | _ => []

/-- An object that is a block is read as the block that it stands for. -/
theorem reads_of_isBlock {v : Json} (canonical : v.Canonical) (block : v.IsBlock) {p : Place}
    (inside : p.InValue) : reader p (.value v) = .ok (ofJson v) := by
  obtain ⟨ms, rfl⟩ := block.exists_members
  obtain ⟨kind, found⟩ := block.exists_type
  obtain ⟨q, -, enters⟩ := inside.enter
  have sorted : Members.Sorted ms := canonical.1
  have draft := readMembers_of_sorted (p := q) .empty kind _ sorted found (.inr rfl) rfl (.inr rfl)
  have made : Draft.toBlock ⟨kind.or none, ((Members.find? "text" ms).map given?).or none,
      (ms.filter isExtra).reverse ++ []⟩ = ofJson (.obj ms) := by
    have kept : Members.ofList (ms.filter isExtra) = ms.filter isExtra :=
      Members.ofList_of_sorted (sorted.filter isExtra)
    simp only [Draft.toBlock, ofJson, Json.get?, found, Option.or_none, List.append_nil,
      List.reverse_reverse, kept]
    congr 1
    · cases kind <;> rfl
    · cases Members.find? "text" ms <;> rfl
  simp only [reader, Json.expose_obj, enters, bind, Except.bind, draft]
  exact congrArg Except.ok made

theorem find?_untyped_of_ne {key : String} (noText : key ≠ "text") (b : ContentBlock) :
    Members.find? key b.untyped = Members.find? key b.extra := by
  unfold untyped
  cases b.text with
  | none => rfl
  | some t => exact Members.find?_insert_of_ne noText _ _

/-- Only an object whose type is missing or a text can be read as a block. -/
theorem isBlock_of_reads {v : Json} {p : Place} {b : ContentBlock}
    (reads : reader p (.value v) = .ok b) : v.IsBlock := by
  cases v with
  | obj ms =>
    obtain ⟨q, -, reads⟩ := bind_eq_ok.1 reads
    obtain ⟨s, draft, -⟩ := bind_eq_ok.1 reads
    refine ⟨rfl, fun t found => ?_⟩
    obtain ⟨k, rfl⟩ := typed_of_reads draft found
    rfl
  | _ => exact absurd reads Reader.mismatch_ne_ok

/-- The block that an object stands for is written as the object, completed. -/
theorem toJson_ofJson {v : Json} (canonical : v.Canonical) (block : v.IsBlock) :
    (ofJson v).toJson = v.completedBlock := by
  obtain ⟨ms, rfl⟩ := block.exists_members
  obtain ⟨kind, found⟩ := block.exists_type
  have settled : (ofJson (.obj ms)).Settled :=
    settled_of_reads (reads_of_isBlock canonical block Place.inValue_ofValue)
  rw [toJson_eq, Json.completedBlock]
  congr 1
  apply Members.eq_of_find? (Members.sorted_insert settled.sorted_untyped "type" _)
    (Members.sorted_completed canonical.1)
  intro key
  by_cases isType : key = "type"
  · subst isType
    have isText : "type" ≠ "text" := by decide
    rw [Members.find?_insert_self, Members.find?_completed_of_ne isText, Members.find?_typed_self,
      ofJson, Json.get?, found]
    cases kind <;> rfl
  rw [Members.find?_insert_of_ne isType]
  by_cases isText : key = "text"
  · subst isText
    rw [settled.find?_untyped, Members.find?_completed_text]
    rfl
  rw [find?_untyped_of_ne isText, Members.find?_completed_of_ne isText,
    Members.find?_typed_of_ne isType]
  exact Members.find?_filter (fun _ => isExtra_iff.2 ⟨isType, isText⟩) ms

end ContentBlock

/-- A block as it is written after it has been read: it has a type, an empty one if it had none, no
text that is null, and all else that it had. -/
structure Json.Rewritten (v w : Json) : Prop where
  type : w.get? "type" = some ((v.get? "type").getD (.str ""))
  text : w.get? "text" = (v.get? "text").filter fun t => !t.isNull
  others : ∀ key, key ≠ "type" → key ≠ "text" → w.get? key = v.get? key

/-- Completing a block adds no more than an empty type and takes no more than a null text. -/
theorem Json.IsBlock.rewritten {v : Json} (block : v.IsBlock) : v.Rewritten v.completedBlock := by
  obtain ⟨ms, rfl⟩ := block.exists_members
  refine ⟨?_, ?_, fun key noType noText => ?_⟩
  · exact (Members.find?_completed_of_ne (by decide) ms).trans (Members.find?_typed_self ms)
  · refine (Members.find?_completed_text ms).trans ?_
    rw [Json.get?]
    rcases Members.find? "text" ms with _ | _ | _ <;> rfl
  · exact (Members.find?_completed_of_ne noText ms).trans (Members.find?_typed_of_ne noType ms)

namespace Content

variable {elems : List Json}

/-- An array of blocks is read as the blocks that its elements stand for. -/
theorem ofJson_of_blocks (canonical : ∀ v ∈ elems, v.Canonical) (blocks : ∀ v ∈ elems, v.IsBlock) :
    ofJson (.arr elems) = .blocks (elems.map ContentBlock.ofJson) := by
  apply ofJson_of_ok
  rw [List.mapM_map]
  exact Reader.mapM_eq_ok fun v member =>
    ContentBlock.reads_of_isBlock (canonical v member) (blocks v member) (Place.inValue_setAside _)

/-- An array in which something is no block is kept as it is. -/
theorem ofJson_of_odd (odd : ¬ ∀ v ∈ elems, v.IsBlock) :
    ofJson (.arr elems) = .other (.arr elems) := by
  cases read : (elems.map Document.value).mapM (ContentBlock.reader Place.ofValue.setAside) with
  | error fault => exact ofJson_of_error read
  | ok bs =>
    refine absurd (fun v member => ?_) odd
    obtain ⟨b, block⟩ := Reader.exists_of_mapM read _ (List.mem_map_of_mem member)
    exact ContentBlock.isBlock_of_reads block

/-- Content that says what a value says and is written as the value, completed. -/
structure Represents (c : Content) (v : Json) : Prop where
  text : ∀ s, c = .text s ↔ v = .str s
  blocks : (∃ bs, c = .blocks bs) ↔ v.IsBlockList
  other : ∀ w, c = .other w ↔ v = w ∧ (∀ s, v ≠ .str s) ∧ ¬ v.IsBlockList
  written : c.toJson = v.completed
  rewritten : ∀ elems written, v = .arr elems → v.IsBlockList → c.toJson = .arr written →
    List.Forall₂ Json.Rewritten elems written

theorem represents_str (s : String) : (Content.text s).Represents (.str s) where
  text s' := by rw [Content.text.injEq, Json.str.injEq]
  blocks := ⟨nofun, nofun⟩
  other w := ⟨nofun, fun ⟨_, noText, _⟩ => absurd rfl (noText s)⟩
  written := rfl
  rewritten := nofun

theorem represents_blocks (canonical : ∀ v ∈ elems, v.Canonical)
    (blocks : ∀ v ∈ elems, v.IsBlock) :
    (Content.blocks (elems.map ContentBlock.ofJson)).Represents (.arr elems) := by
  have list : (Json.arr elems).IsBlockList := ⟨elems, rfl, blocks⟩
  have written : (Content.blocks (elems.map ContentBlock.ofJson)).toJson =
      .arr (elems.map Json.completedBlock) := by
    rw [toJson, List.map_map]
    congr 1
    exact List.map_congr_left fun v member =>
      ContentBlock.toJson_ofJson (canonical v member) (blocks v member)
  refine ⟨fun s => ⟨nofun, nofun⟩, ⟨fun _ => list, fun _ => ⟨_, rfl⟩⟩, fun w => ⟨nofun, ?_⟩, ?_, ?_⟩
  · exact fun ⟨_, _, odd⟩ => absurd list odd
  · rw [written, Json.completed, if_pos blocks]
  · intro elems' written' same _ written''
    cases same
    cases written.symm.trans written''
    rw [List.forall₂_map_right_iff, List.forall₂_same]
    exact fun v member => (blocks v member).rewritten

theorem represents_other {v : Json} (noText : ∀ s, v ≠ .str s) (odd : ¬ v.IsBlockList) :
    (Content.other v).Represents v where
  text s := ⟨nofun, fun same => absurd same (noText s)⟩
  blocks := ⟨nofun, fun list => absurd list odd⟩
  other w := by
    rw [Content.other.injEq]
    exact ⟨fun same => ⟨same, noText, odd⟩, fun ⟨same, _⟩ => same⟩
  written := by
    cases v with
    | arr elems =>
      have someOdd : ¬ ∀ e ∈ elems, e.IsBlock := fun blocks => odd ⟨elems, rfl, blocks⟩
      rw [toJson, Json.completed, if_neg someOdd]
    | _ => rfl
  rewritten _ _ _ list := absurd list odd

/-- Content says what the value says from which it is read. -/
theorem represents_ofJson {v : Json} (canonical : v.Canonical) : (ofJson v).Represents v := by
  cases v with
  | str s => exact represents_str s
  | arr elems =>
    by_cases blocks : ∀ v ∈ elems, v.IsBlock
    · have each : ∀ v ∈ elems, v.Canonical := Json.canonicalList_iff.1 canonical
      rw [ofJson_of_blocks each blocks]
      exact represents_blocks each blocks
    · rw [ofJson_of_odd blocks]
      apply represents_other
      · exact fun _ same => nomatch same
      · rintro ⟨_, same, blocks'⟩
        cases same
        exact blocks blocks'
  | _ =>
    apply represents_other
    · exact fun _ same => nomatch same
    · exact fun ⟨_, same, _⟩ => nomatch same

end Content

/-- Every value is content, wherever it stands. Its shape is a text exactly for strings, blocks
exactly for arrays of blocks, and for all else the value as it is; and what is written of it is the
value again, with blocks completed. -/
theorem content_of_every_value {v : Json} (canonical : v.Canonical) :
    ∃ c : Content, (∀ p, Content.reader p (.value v) = .ok c) ∧ c.Represents v :=
  ⟨Content.ofJson v, fun p => Content.reader_value p v, Content.represents_ofJson canonical⟩

/-- An image without a type whose text is null, before a text. -/
def untypedImage : Json := .arr [
  .obj [("image_url", .obj [("detail", .null)]), ("text", .null)],
  .obj [("text", .str "hi"), ("type", .str "text")]]

/-- The image gets an empty type and loses its text; its other member and the text after it stay. -/
theorem content_of_every_value_image : untypedImage.Canonical ∧
    ∃ c : Content, Reader.ofJson Content.reader untypedImage = .ok c ∧ (∃ bs, c = .blocks bs) ∧
      c.toJson = .arr [
        .obj [("image_url", .obj [("detail", .null)]), ("type", .str "")],
        .obj [("text", .str "hi"), ("type", .str "text")]] := by
  have inOrder : "image_url" < "text" ∧ "text" < "type" := by decide
  have canonical : untypedImage.Canonical := by
    simp only [untypedImage, Json.Canonical, Json.CanonicalList, Json.CanonicalMembers,
      Members.Sorted, List.pairwise_pair, List.pairwise_singleton, inOrder, and_self]
  obtain ⟨c, reads, represents⟩ := content_of_every_value canonical
  have blocks : untypedImage.IsBlockList := ⟨_, rfl, by decide⟩
  exact ⟨canonical, c, reads .ofValue, represents.blocks.2 blocks, represents.written.trans rfl⟩

end ChatRelay
