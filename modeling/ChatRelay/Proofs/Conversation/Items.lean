import ChatRelay.Proofs.Conversation.ReadBack
import ChatRelay.Proofs.Json.Acceptance

/-!
# Which objects are items

An object is an item if its type is a text. A call needs content from which a call can be read, and
an output content from which an output can be read; an item of any other type, known or not, needs
nothing, and takes whatever role and content it has.
-/
namespace ChatRelay

open Json (Document Members Place Reader Token)
open Json.Reader (bind_eq_ok exists_map_iff map_eq_ok RecordField)

namespace Json

/-- A value from which a call can be read: its name is a text, and its id is a text or null. -/
structure IsCall (v : Json) : Prop where
  fits : v.FitsRecord 3
  name : ∀ n ∈ v.held? "name" 0, n.kind = .string
  callId : ∀ c ∈ v.held? "call_id" 2, c.kind = .null ∨ c.kind = .string

/-- A value from which an output can be read: its id and its name are texts or null. -/
structure IsOutput (v : Json) : Prop where
  fits : v.FitsRecord 3
  callId : ∀ c ∈ v.held? "call_id" 0, c.kind = .null ∨ c.kind = .string
  name : ∀ n ∈ v.held? "name" 1, n.kind = .null ∨ n.kind = .string

end Json

/-- What an item of a kind asks of its content. -/
def Item.Kind.Admits : Item.Kind → Option Json → Prop
  | .call, content => ∃ c ∈ content, c.IsCall
  | .output, content => ∃ c ∈ content, c.IsOutput
  | _, _ => True

/-- The type is a text, and the item that it names admits the content. -/
def Json.Members.IsItem (ms : Members) : Prop :=
  ∃ name, Members.find? "type" ms = some (.str name) ∧
    (Item.Kind.ofName name).Admits (Members.find? "content" ms)

section

variable {p : Place} {v : Json}

theorem FunctionCall.independent_fields : RecordField.Independent fields :=
  ⟨by simp [fields], by simp [fields], by simp [fields]⟩

/-- A call can be read from a value exactly if its name and its id have the kinds they need. -/
theorem FunctionCall.exists_reader_iff (inside : p.InValue) (canonical : v.Canonical) :
    (∃ c, reader p (.value v) = .ok c) ↔ v.IsCall := by
  obtain ⟨q, -, enters⟩ := inside.enter
  rw [reader, Reader.exists_record_iff enters independent_fields canonical]
  simp only [fields, List.zipIdx_cons, List.zipIdx_nil, List.forall_mem_cons,
    RecordField.make_name, RecordField.make_suits, Reader.exists_string_iff, Reader.exists_json,
    Reader.exists_optional_iff]
  exact ⟨fun ⟨fits, name, _, callId, _⟩ => ⟨fits, name, callId⟩,
    fun ⟨fits, name, callId⟩ => ⟨fits, name, fun _ _ => trivial, callId, nofun⟩⟩

theorem FunctionOutput.independent_fields : RecordField.Independent fields :=
  ⟨by simp [fields], by simp [fields], by simp [fields]⟩

/-- An output can be read from a value exactly if its id and name have the kinds they need. -/
theorem FunctionOutput.exists_reader_iff (inside : p.InValue) (canonical : v.Canonical) :
    (∃ o, reader p (.value v) = .ok o) ↔ v.IsOutput := by
  obtain ⟨q, -, enters⟩ := inside.enter
  rw [reader, Reader.exists_record_iff enters independent_fields canonical]
  simp only [fields, List.zipIdx_cons, List.zipIdx_nil, List.forall_mem_cons,
    RecordField.make_name, RecordField.make_suits, Reader.exists_string_iff, Reader.exists_json,
    Reader.exists_optional_iff]
  exact ⟨fun ⟨fits, callId, name, _⟩ => ⟨fits, callId, name⟩,
    fun ⟨fits, callId, name⟩ => ⟨fits, callId, name, fun _ _ => trivial, nofun⟩⟩

theorem Role.exists_reader (p : Place) (v : Json) : ∃ r, reader p (.value v) = .ok r := ⟨_, rfl⟩

theorem Content.exists_reader (p : Place) (v : Json) : ∃ c, reader p (.value v) = .ok c :=
  ⟨_, reader_value p v⟩

end

namespace Item

variable {p : Place} {ms : Members}

theorem independent_messageFields : RecordField.Independent messageFields :=
  ⟨by simp [messageFields], by simp [messageFields], by simp [messageFields]⟩

theorem independent_textFields : RecordField.Independent textFields :=
  ⟨by simp [textFields], by simp [textFields], by simp [textFields]⟩

theorem independent_callFields : RecordField.Independent callFields :=
  ⟨by simp [callFields], by simp [callFields], by simp [callFields]⟩

theorem independent_outputFields : RecordField.Independent outputFields :=
  ⟨by simp [outputFields], by simp [outputFields], by simp [outputFields]⟩

/-- Where the kind of an item is known, all turns on the content. -/
theorem exists_ofParts_iff {kind : Kind} (inside : p.InValue)
    (canonical : (Json.obj ms).Canonical) :
    (∃ i, ofParts p (.members (Members.documents ms)) kind = .ok i) ↔
      kind.Admits (Members.find? "content" ms) := by
  have sorted : Members.Sorted ms := canonical.1
  have content : ∀ c ∈ Members.find? "content" ms, c.Canonical := fun c found =>
    Json.canonicalMembers_iff.1 canonical.2 _ (Members.mem_of_find? found)
  cases kind with
  | message =>
    have fits : ∃ x, Reader.recordOfMembers messageFields (.user, .text "") p
        (Members.documents ms) none = .ok x := by
      rw [Reader.exists_recordOfMembers_iff independent_messageFields sorted]
      simp [messageFields, Role.exists_reader, Content.exists_reader]
    obtain ⟨x, reads⟩ := fits
    exact ⟨fun _ => trivial, fun _ => ⟨.message x.1 x.2, bind_eq_ok.2 ⟨x, reads, rfl⟩⟩⟩
  | text =>
    have fits : ∃ x, Reader.recordOfMembers textFields (none, .text "") p
        (Members.documents ms) none = .ok x := by
      rw [Reader.exists_recordOfMembers_iff independent_textFields sorted]
      simp [textFields, Reader.exists_optional_iff, Role.exists_reader, Content.exists_reader]
    obtain ⟨x, reads⟩ := fits
    exact ⟨fun _ => trivial, fun _ => ⟨.text x.1 x.2, bind_eq_ok.2 ⟨x, reads, rfl⟩⟩⟩
  | call =>
    refine exists_map_iff.trans ?_
    rw [recordOfParts, Reader.exists_recordOfMembers_iff independent_callFields sorted]
    simp only [callFields, List.forall_mem_singleton, RecordField.make_name,
      RecordField.make_suits_of_required]
    exact exists_congr fun c => and_congr_right fun found =>
      FunctionCall.exists_reader_iff inside (content c found)
  | output =>
    refine exists_map_iff.trans ?_
    rw [recordOfParts, Reader.exists_recordOfMembers_iff independent_outputFields sorted]
    simp only [outputFields, List.forall_mem_singleton, RecordField.make_name,
      RecordField.make_suits_of_required]
    exact exists_congr fun c => and_congr_right fun found =>
      FunctionOutput.exists_reader_iff inside (content c found)
  | unknown => exact ⟨fun _ => trivial, fun _ => ⟨.unknown, rfl⟩⟩

/-- If the members can be split, their type is a text or there is none. -/
theorem exists_type_of_splitMembers {kind : Option Kind}
    {r : Option Kind × List (Token String × Document)}
    (splits : splitMembers p kind (Members.documents ms) = .ok r) :
    ∃ name : Option String, Members.find? "type" ms = name.map .str := by
  induction ms generalizing kind r with
  | nil => exact ⟨none, rfl⟩
  | cons m rest ih =>
    obtain ⟨key, v⟩ := m
    rw [Members.documents_cons] at splits
    rcases splitMembers_cons splits with ⟨isType, k, named, -⟩ | ⟨isOther, later, splits, -⟩
    · obtain rfl : key = "type" := Except.ok.inj isType
      cases v with
      | str name => exact ⟨some name, if_pos rfl⟩
      | _ => exact absurd named Reader.mismatch_ne_ok
    · rw [Members.find?, if_neg fun same => isOther (congrArg Except.ok same)]
      exact ih splits

/-- An object is read as an item exactly if its members are those of an item. -/
theorem exists_reader_iff (inside : p.InValue) (canonical : (Json.obj ms).Canonical) :
    (∃ i, reader p (.value (.obj ms)) = .ok i) ↔ Members.IsItem ms := by
  have sorted : Members.Sorted ms := canonical.1
  have kept : (Json.obj (Members.erase "type" ms)).Canonical :=
    ⟨sorted.filter _, Json.canonicalMembers_iff.2 fun m member =>
      Json.canonicalMembers_iff.1 canonical.2 m (List.mem_filter.1 member).1⟩
  have content : Members.find? "content" (Members.erase "type" ms) =
      Members.find? "content" ms := Members.find?_erase_of_ne (by decide) ms
  constructor
  · rintro ⟨i, reads⟩
    obtain ⟨q, -, reads⟩ := bind_eq_ok.1 reads
    obtain ⟨⟨kind, others⟩, splits, reads⟩ := bind_eq_ok.1 reads
    obtain ⟨_, -, reads⟩ := bind_eq_ok.1 reads
    obtain ⟨name, typed⟩ := exists_type_of_splitMembers splits
    cases splits.symm.trans (splitMembers_of_sorted none name sorted typed (.inr rfl))
    cases name with
    | none => cases reads
    | some name =>
      -- the content is looked up in what is left without the type
      refine ⟨name, typed, ?_⟩
      rw [← content, ← exists_ofParts_iff q.inValue_setAside kept]
      exact ⟨i, reads⟩
  · rintro ⟨name, typed, admits⟩
    obtain ⟨q, -, enters⟩ := inside.enter
    have splits := splitMembers_of_sorted (p := q) none (some name) sorted typed (.inr rfl)
    rw [← content, ← exists_ofParts_iff q.inValue_setAside kept] at admits
    simp only [reader, Json.expose_obj, enters, bind, Except.bind, splits]
    exact admits

end Item
end ChatRelay
