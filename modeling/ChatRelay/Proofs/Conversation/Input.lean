import ChatRelay.Converter
import ChatRelay.Proofs.Conversation.Items
import Mathlib.Data.List.Forall2

/-!
# A list of elements is read as a whole

An element of an input stands for an object with a type, and denotes the item that is read from
that. A list is read if each of its elements denotes an item, as these items in their order; else
the first element that denotes none is the fault. So what is read of two lists one after another
comes from what is read of each, and a type that may be left out may as well be written out.
-/
namespace ChatRelay

open Json (DecodeFault Members Place Reader)
open Json.Reader (bind_eq_error bind_eq_ok mapError_eq_error mapError_eq_ok)

/-- The same fault of an element that stands so many places later. -/
def InputFault.later (places : Nat) : InputFault → InputFault
  | .notItems kind => .notItems kind
  | .notObject index kind => .notObject (index + places) kind
  | .noTypeOrRole index => .noTypeOrRole (index + places)
  | .notItem index fault => .notItem (index + places) fault

namespace Input

/-- The object with a type that an element stands for: the element itself, or a message if it has a
role and no type. -/
inductive StandsFor : Json → Json → Prop where
  | typed {ms : Members} (type : (Members.find? "type" ms).isSome) : StandsFor (.obj ms) (.obj ms)
  | spoken {ms : Members} (noType : Members.find? "type" ms = none)
      (role : (Members.find? "role" ms).isSome) :
      StandsFor (.obj ms) (.obj (Members.insert "type" (.str "message") ms))

/-- The item that is read from what the element stands for. -/
def Denotes (v : Json) (i : Item) : Prop :=
  ∃ w, StandsFor v w ∧ Reader.ofJson Item.reader w = .ok i

/-- Why the element at an index denotes no item. -/
inductive Refuses (index : Nat) : Json → InputFault → Prop where
  | notObject {v : Json} (other : v.kind ≠ .object) : Refuses index v (.notObject index v.kind)
  | noTypeOrRole {ms : Members} (noType : Members.find? "type" ms = none)
      (noRole : Members.find? "role" ms = none) : Refuses index (.obj ms) (.noTypeOrRole index)
  | notItem {v w : Json} {fault : DecodeFault} (stands : StandsFor v w)
      (fails : Reader.ofJson Item.reader w = .error fault) : Refuses index v (.notItem index fault)

/-- The first element that denotes no item, and why. -/
structure FirstRefused (elems : List Json) (index : Nat) (fault : InputFault) : Prop where
  refused : ∃ v, elems[index]? = some v ∧ Refuses index v fault
  before : ∀ (earlier : Nat) v, earlier < index → elems[earlier]? = some v → ∃ i, Denotes v i

/-- An element as it is, or with the type written out that it leaves out. -/
def WrittenOut (v w : Json) : Prop := w = v ∨ StandsFor v w

/-- An object that is an item, or that has a role and no type. -/
inductive IsElement : Json → Prop where
  | item {ms : Members} (item : Members.IsItem ms) : IsElement (.obj ms)
  | spoken {ms : Members} (noType : Members.find? "type" ms = none)
      (role : (Members.find? "role" ms).isSome) : IsElement (.obj ms)

section

variable {index : Nat} {v w : Json}

/-- An element is read as the object that it stands for, and a fault is told with its index. -/
theorem parseElement_of_standsFor (stands : StandsFor v w) :
    parseElement index v = (Reader.ofJson Item.reader w).mapError (.notItem index) := by
  cases stands with
  | typed type => simp only [parseElement, if_pos type, Except.bind]
  | spoken noType role =>
    simp only [parseElement, noType, Option.isSome_none, Bool.false_eq_true, if_false, if_pos role,
      Except.bind]

/-- An element stands for an object with a type, or is refused for what it is. -/
theorem standsFor_or_refuses (index : Nat) (v : Json) :
    (∃ w, StandsFor v w) ∨
      ∃ fault, parseElement index v = .error fault ∧ Refuses index v fault := by
  cases v with
  | obj ms =>
    cases type : Members.find? "type" ms with
    | some t => exact .inl ⟨_, .typed (Option.isSome_of_eq_some type)⟩
    | none =>
      cases role : Members.find? "role" ms with
      | some r => exact .inl ⟨_, .spoken type (Option.isSome_of_eq_some role)⟩
      | none =>
        refine .inr ⟨.noTypeOrRole index, ?_, .noTypeOrRole type role⟩
        simp [parseElement, type, role, Except.bind]
  | _ => exact .inr ⟨_, rfl, .notObject nofun⟩

/-- Parsing an element gives the item that the element denotes. -/
theorem parseElement_eq_ok_iff {i : Item} : parseElement index v = .ok i ↔ Denotes v i := by
  constructor
  · intro parses
    rcases standsFor_or_refuses index v with ⟨w, stands⟩ | ⟨fault, fails, -⟩
    · rw [parseElement_of_standsFor stands, mapError_eq_ok] at parses
      exact ⟨w, stands, parses⟩
    · cases fails.symm.trans parses
  · rintro ⟨w, stands, reads⟩
    rw [parseElement_of_standsFor stands, mapError_eq_ok]
    exact reads

/-- Parsing an element fails exactly if something refuses it, and says what. -/
theorem parseElement_eq_error_iff {fault : InputFault} :
    parseElement index v = .error fault ↔ Refuses index v fault := by
  constructor
  · intro parses
    rcases standsFor_or_refuses index v with ⟨w, stands⟩ | ⟨fault', fails, refuses⟩
    · rw [parseElement_of_standsFor stands, mapError_eq_error] at parses
      obtain ⟨cause, fails, rfl⟩ := parses
      exact .notItem stands fails
    · cases fails.symm.trans parses
      exact refuses
  · intro refuses
    cases refuses with
    | notObject other =>
      cases v with
      | obj ms => exact absurd rfl other
      | _ => rfl
    | noTypeOrRole noType noRole => simp [parseElement, noType, noRole, Except.bind]
    | notItem stands fails =>
      rw [parseElement_of_standsFor stands, fails]
      rfl

theorem Refuses.later {fault : InputFault} (refuses : Refuses index v fault) (places : Nat) :
    Refuses (index + places) v (fault.later places) := by
  cases refuses with
  | notObject other => exact .notObject other
  | noTypeOrRole noType noRole => exact .noTypeOrRole noType noRole
  | notItem stands fails => exact .notItem stands fails

theorem parseElement_later (index places : Nat) (v : Json) :
    parseElement (index + places) v = (parseElement index v).mapError (.later places) := by
  cases parses : parseElement index v with
  | ok i => exact parseElement_eq_ok_iff.2 (parseElement_eq_ok_iff.1 parses)
  | error fault => exact parseElement_eq_error_iff.2 ((parseElement_eq_error_iff.1 parses).later _)

/-- What an element stands for stands for itself. -/
theorem StandsFor.again (stands : StandsFor v w) : StandsFor w w := by
  cases stands with
  | typed type => exact .typed type
  | spoken _ _ =>
    exact .typed (Option.isSome_of_eq_some (Members.find?_insert_self "type" _ _))

theorem WrittenOut.parseElement_eq (written : WrittenOut v w) (index : Nat) :
    parseElement index w = parseElement index v := by
  rcases written with rfl | stands
  · rfl
  · rw [parseElement_of_standsFor stands, parseElement_of_standsFor stands.again]

/-- A refused element is named by its index. -/
theorem Refuses.exists_reason {fault : InputFault} (refuses : Refuses index v fault) :
    ∃ reason, fault.message = "input[" ++ toString index ++ "]" ++ reason := by
  cases refuses with
  | notObject other =>
    refine ⟨" must be an object, got " ++ v.kind.name, ?_⟩
    have text : (InputFault.notObject index v.kind).message =
        "input[" ++ toString index ++ ("]" ++ " must be an object, got ") ++ v.kind.name := rfl
    simp only [text, String.append_assoc]
  | noTypeOrRole noType noRole =>
    refine ⟨" has neither a type nor a role", ?_⟩
    have text : (InputFault.noTypeOrRole index).message =
        "input[" ++ toString index ++ ("]" ++ " has neither a type nor a role") := rfl
    simp only [text, String.append_assoc]
  | @notItem _ _ fault stands fails =>
    refine ⟨" is not a valid item: " ++ fault.message, ?_⟩
    have text : (InputFault.notItem index fault).message =
        "input[" ++ toString index ++ ("]" ++ " is not a valid item: ") ++ fault.message := rfl
    simp only [text, String.append_assoc]

theorem canonical_insert {ms : Members} (canonical : (Json.obj ms).Canonical) (key : String)
    (value : v.Canonical) : (Json.obj (Members.insert key v ms)).Canonical := by
  refine ⟨Members.sorted_insert canonical.1 key v, Json.canonicalMembers_iff.2 fun m member => ?_⟩
  rcases Members.mem_insert member with rfl | old
  · exact value
  · exact Json.canonicalMembers_iff.1 canonical.2 m old

/-- Which elements denote items. A message that is written without its type always does. -/
theorem exists_denotes_iff (canonical : v.Canonical) : (∃ i, Denotes v i) ↔ IsElement v := by
  constructor
  · rintro ⟨i, w, stands, reads⟩
    cases stands with
    | typed type =>
      exact .item ((Item.exists_reader_iff Place.inValue_ofValue canonical).1 ⟨i, reads⟩)
    | spoken noType role => exact .spoken noType role
  · intro element
    cases element with
    | item item =>
      have ⟨name, type, _⟩ := item
      obtain ⟨i, reads⟩ := (Item.exists_reader_iff Place.inValue_ofValue canonical).2 item
      exact ⟨i, _, .typed (Option.isSome_of_eq_some type), reads⟩
    | @spoken ms noType role =>
      have message : Members.IsItem (Members.insert "type" (.str "message") ms) :=
        ⟨"message", Members.find?_insert_self "type" _ ms, trivial⟩
      have canonical' : (Json.obj (Members.insert "type" (.str "message") ms)).Canonical :=
        canonical_insert canonical "type" trivial
      obtain ⟨i, reads⟩ :=
        (Item.exists_reader_iff Place.inValue_ofValue canonical').2 message
      exact ⟨i, _, .spoken noType role, reads⟩

end

section

variable {index : Nat} {elems : List Json}

theorem parseFrom_cons_eq_ok {v : Json} {rest : List Json} {items : List Item} :
    parseFrom index (v :: rest) = .ok items ↔ ∃ i others, Denotes v i ∧
      parseFrom (index + 1) rest = .ok others ∧ items = i :: others := by
  constructor
  · intro parses
    obtain ⟨i, first, parses⟩ := bind_eq_ok.1 parses
    obtain ⟨others, later, same⟩ := bind_eq_ok.1 parses
    exact ⟨i, others, parseElement_eq_ok_iff.1 first, later, (Except.ok.inj same).symm⟩
  · rintro ⟨i, others, denotes, later, rfl⟩
    exact bind_eq_ok.2 ⟨i, parseElement_eq_ok_iff.2 denotes, bind_eq_ok.2 ⟨others, later, rfl⟩⟩

theorem parseFrom_cons_eq_error {v : Json} {rest : List Json} {fault : InputFault} :
    parseFrom index (v :: rest) = .error fault ↔ Refuses index v fault ∨
      (∃ i, Denotes v i) ∧ parseFrom (index + 1) rest = .error fault := by
  rw [parseFrom, bind_eq_error, parseElement_eq_error_iff]
  apply or_congr_right
  constructor
  · rintro ⟨i, first, parses⟩
    rcases bind_eq_error.1 parses with later | ⟨_, _, impossible⟩
    · exact ⟨⟨i, parseElement_eq_ok_iff.1 first⟩, later⟩
    · cases impossible
  · rintro ⟨⟨i, denotes⟩, later⟩
    exact ⟨i, parseElement_eq_ok_iff.2 denotes, bind_eq_error.2 (.inl later)⟩

/-- The items of a list, one for each element. -/
theorem parseFrom_eq_ok_iff {items : List Item} :
    parseFrom index elems = .ok items ↔ List.Forall₂ Denotes elems items := by
  induction elems generalizing index items with
  | nil =>
    rw [List.forall₂_nil_left_iff]
    exact ⟨fun parses => (Except.ok.inj parses).symm, fun none => congrArg _ none.symm⟩
  | cons v rest ih => simp only [parseFrom_cons_eq_ok, List.forall₂_cons_left_iff, ih]

/-- A list is parsed exactly if each element denotes an item. -/
theorem exists_parseFrom_iff :
    (∃ items, parseFrom index elems = .ok items) ↔ ∀ v ∈ elems, ∃ i, Denotes v i := by
  induction elems generalizing index with
  | nil => exact ⟨fun _ => nofun, fun _ => ⟨[], rfl⟩⟩
  | cons v rest ih =>
    rw [List.forall_mem_cons, ← @ih (index + 1)]
    constructor
    · rintro ⟨items, parses⟩
      obtain ⟨i, others, denotes, later, -⟩ := parseFrom_cons_eq_ok.1 parses
      exact ⟨⟨i, denotes⟩, others, later⟩
    · rintro ⟨⟨i, denotes⟩, others, later⟩
      exact ⟨i :: others, parseFrom_cons_eq_ok.2 ⟨i, others, denotes, later, rfl⟩⟩

/-- The fault of a list is that of the first element that denotes no item. -/
theorem parseFrom_eq_error_iff {fault : InputFault} :
    parseFrom index elems = .error fault ↔ ∃ (place : Nat) (v : Json), elems[place]? = some v ∧
      Refuses (index + place) v fault ∧
      ∀ (earlier : Nat) w, earlier < place → elems[earlier]? = some w → ∃ i, Denotes w i := by
  induction elems generalizing index with
  | nil => exact ⟨nofun, fun ⟨_, _, impossible, _⟩ => nomatch impossible⟩
  | cons v rest ih =>
    rw [parseFrom_cons_eq_error, ih]
    constructor
    · rintro (refuses | ⟨denotes, place, w, here, refuses, before⟩)
      · exact ⟨0, v, rfl, refuses, fun _ _ none => absurd none (Nat.not_lt_zero _)⟩
      · -- what comes before the fault of the rest is the first element and what comes before it there
        refine ⟨place + 1, w, here, ?_, fun earlier w' less there => ?_⟩
        · rwa [Nat.add_right_comm] at refuses
        · cases earlier with
          | zero =>
            cases there
            exact denotes
          | succ earlier => exact before earlier w' (Nat.lt_of_succ_lt_succ less) there
    · rintro ⟨place, w, here, refuses, before⟩
      cases place with
      | zero =>
        cases here
        exact .inl refuses
      | succ place =>
        refine .inr ⟨before 0 v (Nat.succ_pos place) rfl, place, w, here, ?_, ?_⟩
        · rwa [Nat.add_right_comm]
        · exact fun earlier w' less there => before (earlier + 1) w' (Nat.succ_lt_succ less) there

/-- Counting from a later index only moves the index that a fault names. -/
theorem parseFrom_later (index places : Nat) (elems : List Json) :
    parseFrom (index + places) elems = (parseFrom index elems).mapError (.later places) := by
  induction elems generalizing index with
  | nil => rfl
  | cons v rest ih =>
    rw [parseFrom, parseFrom, parseElement_later, Nat.add_right_comm, ih]
    cases parseElement index v with
    | error fault => rfl
    | ok i => cases parseFrom (index + 1) rest <;> rfl

/-- A list after another is read once the other has been read. -/
theorem parseFrom_append (index : Nat) (elems more : List Json) :
    parseFrom index (elems ++ more) = (parseFrom index elems).bind fun items =>
      (parseFrom (index + elems.length) more).map (items ++ ·) := by
  induction elems generalizing index with
  | nil =>
    show parseFrom index more = (parseFrom index more).map ([] ++ ·)
    cases parseFrom index more <;> rfl
  | cons v rest ih =>
    have behind : index + (v :: rest).length = index + 1 + rest.length := by
      rw [List.length_cons, Nat.add_assoc, Nat.add_comm 1]
    rw [List.cons_append, parseFrom, parseFrom, ih, behind]
    cases parseElement index v with
    | error fault => rfl
    | ok i =>
      cases parseFrom (index + 1) rest with
      | error fault => rfl
      | ok items => cases parseFrom (index + 1 + rest.length) more <;> rfl

/-- The type of a message may be written out or left out. -/
theorem parseFrom_writtenOut {elems' : List Json} (written : List.Forall₂ WrittenOut elems elems') :
    parseFrom index elems' = parseFrom index elems := by
  induction written generalizing index with
  | nil => rfl
  | cons first _ ih => rw [parseFrom, parseFrom, first.parseElement_eq, ih]

end

/-- A list is read as a whole and in order, up to its first fault, which names its place. -/
structure ReadsWhole (elems : List Json) : Prop where
  /-- One item for each element, in their order. -/
  accepted : ∀ items, parse (.arr elems) = .ok items ↔ List.Forall₂ Denotes elems items
  succeeds : (∃ items, parse (.arr elems) = .ok items) ↔ ∀ v ∈ elems, ∃ i, Denotes v i
  shapes : ∀ v ∈ elems, v.Canonical → ((∃ i, Denotes v i) ↔ IsElement v)
  refused : ∀ fault, parse (.arr elems) = .error fault ↔ ∃ index, FirstRefused elems index fault
  named : ∀ index fault, FirstRefused elems index fault →
    (∃ reason, fault.message = "input[" ++ toString index ++ "]" ++ reason) ∧
      ∀ (c : Converter) (history : List Item) (r : Request), r.input = .arr elems →
        c.payload history r = .error (.invalidInput fault.message)
  bothRead : ∀ more items items', parse (.arr elems) = .ok items → parse (.arr more) = .ok items' →
    parse (.arr (elems ++ more)) = .ok (items ++ items')
  firstFails : ∀ more fault, parse (.arr elems) = .error fault →
    parse (.arr (elems ++ more)) = .error fault
  secondFails : ∀ more items fault, parse (.arr elems) = .ok items →
    parse (.arr more) = .error fault →
    parse (.arr (elems ++ more)) = .error (fault.later elems.length)
  writtenOut : ∀ elems', List.Forall₂ WrittenOut elems elems' →
    parse (.arr elems') = parse (.arr elems)

variable {elems : List Json}

theorem parse_eq_error_iff {fault : InputFault} :
    parse (.arr elems) = .error fault ↔ ∃ index, FirstRefused elems index fault := by
  rw [parse, parseFrom_eq_error_iff]
  simp only [Nat.zero_add]
  constructor
  · exact fun ⟨index, v, here, refuses, before⟩ => ⟨index, ⟨v, here, refuses⟩, before⟩
  · exact fun ⟨index, ⟨v, here, refuses⟩, before⟩ => ⟨index, v, here, refuses, before⟩

/-- What is read of a list after one that is read. -/
theorem parse_append {items : List Item} (parses : parse (.arr elems) = .ok items)
    (more : List Json) : parse (.arr (elems ++ more)) =
      ((parse (.arr more)).mapError (.later elems.length)).map (items ++ ·) := by
  rw [parse] at parses
  rw [parse, parse, parseFrom_append, parses, ← parseFrom_later]
  rfl

/-- Every list of elements is read as a whole. -/
theorem input_reads_whole (elems : List Json) : ReadsWhole elems where
  accepted items := parseFrom_eq_ok_iff
  succeeds := exists_parseFrom_iff
  shapes v _ canonical := exists_denotes_iff canonical
  refused fault := parse_eq_error_iff
  named index fault first := by
    obtain ⟨v, -, refuses⟩ := first.refused
    refine ⟨refuses.exists_reason, fun c history r given => ?_⟩
    have fails : parse (.arr elems) = .error fault := parse_eq_error_iff.2 ⟨index, first⟩
    rw [Converter.payload, given, fails]
  bothRead more items items' parses parses' := by
    rw [parse_append parses, parses']
    rfl
  firstFails more fault fails := by
    rw [parse] at fails
    rw [parse, parseFrom_append, fails]
    rfl
  secondFails more items fault parses fails := by
    rw [parse_append parses, fails]
    rfl
  writtenOut elems' written := parseFrom_writtenOut written

/-- A call without content is the fault of a list that starts with a message. -/
example : (parse (.arr [.obj [("content", .str "Sure"), ("role", .str "assistant")],
    .obj [("type", .str "function_call")], .null])).mapError InputFault.message =
      .error "input[1] is not a valid item: missing field `content`" := rfl

end Input
end ChatRelay
