import ChatRelay.Conversation.Content
import ChatRelay.Proofs.Json.Documents

/-!
# Content read back

Content is *settled* if writing it and reading it again changes nothing: a block keeps only members
that it does not know, in order, and a value that is neither text nor blocks is none of these when
it is looked at again. Everything that is read from a value is settled, and so is what is read from
a text in which no object repeats a key that blocks know.
-/
namespace ChatRelay

open Json (Document Members Place Reader Token)
open Json.Reader (bind_eq_ok map_eq_ok)

namespace ContentBlock

/-- A member that a block does not know. -/
def isExtra (m : String × Json) : Bool := m.1 ≠ "type" && m.1 ≠ "text"

theorem isExtra_iff {key : String} {v : Json} :
    isExtra (key, v) = true ↔ key ≠ "type" ∧ key ≠ "text" := by
  simp [isExtra]

/-- The members of a block are its type, its text and extra ones. -/
theorem key_cases (key : String) (v : Json) :
    key = "type" ∨ key = "text" ∨ isExtra (key, v) = true := by
  by_cases isType : key = "type"
  · exact .inl isType
  by_cases isText : key = "text"
  · exact .inr (.inl isText)
  exact .inr (.inr (isExtra_iff.2 ⟨isType, isText⟩))

/-- A text member as it is read: null is none. -/
def given? (t : Json) : Option Json := if t.isNull then none else some t

/-- A block as it is read. -/
structure Settled (b : ContentBlock) : Prop where
  sorted : Members.Sorted b.extra
  unknown : ∀ m ∈ b.extra, isExtra m
  present : ∀ t ∈ b.text, t.isNull = false

section

variable {p : Place} {s : Draft} {v : Json} {rest : List (Token String × Document)}

theorem readMembers_type :
    readMembers p s ((.ok "type", .value v) :: rest) =
      if s.kind.isSome then .error (.duplicateField "type")
      else (Reader.string p (.value v)).bind fun k =>
        readMembers p { s with kind := some k } rest := by
  simp only [readMembers, Token.ok, Reader.liftText, Except.mapError, bind, Except.bind]

theorem readMembers_text :
    readMembers p s ((.ok "text", .value v) :: rest) =
      if s.text.isSome then .error (.duplicateField "text")
      else readMembers p { s with text := some (given? v) } rest := by
  simp only [readMembers, Token.ok, Reader.liftText, Except.mapError, bind, Except.bind]
  cases v <;> rfl

theorem readMembers_extra {key : String} (extra : isExtra (key, v)) :
    readMembers p s ((.ok key, .value v) :: rest) =
      readMembers p { s with others := (key, v) :: s.others } rest := by
  obtain ⟨noType, noText⟩ := isExtra_iff.1 extra
  simp only [readMembers, Token.ok, Reader.liftText, Except.mapError, bind, Except.bind]
  rfl

end

/-- What has been read of a block holds only extra members, and no null as text. -/
structure Draft.Settled (s : Draft) : Prop where
  unknown : ∀ m ∈ s.others, isExtra m
  present : ∀ t ∈ s.text.join, t.isNull = false

theorem Draft.settled_empty : Draft.empty.Settled where
  unknown := fun _ member => absurd member List.not_mem_nil
  present := fun _ here => nomatch here

def readMember (p : Place) (s : Draft) (name : String) (d : Document) :
    Except Json.DecodeFault Draft :=
  if name = "type" then
    if s.kind.isSome then .error (.duplicateField "type")
    else (Reader.string p d).map fun k => { s with kind := some k }
  else if name = "text" then
    if s.text.isSome then .error (.duplicateField "text")
    else (Reader.optional Reader.json p d).map fun t => { s with text := some t }
  else (Reader.json p d).map fun v => { s with others := (name, v) :: s.others }

/-- The members are read one after another. -/
theorem readMembers_cons (p : Place) (s : Draft) (key : Token String) (d : Document)
    (rest : List (Token String × Document)) :
    readMembers p s ((key, d) :: rest) =
      (Reader.liftText key.read).bind fun name =>
        (readMember p s name d).bind fun s => readMembers p s rest := by
  rw [readMembers]
  refine congrArg (Except.bind (Reader.liftText key.read)) (funext fun name => ?_)
  unfold readMember
  split
  · rw [if_pos rfl]
    cases s.kind <;> cases Reader.string p d <;> rfl
  · have noType : "text" ≠ "type" := by decide
    rw [if_neg noType, if_pos (rfl : "text" = "text")]
    cases s.text <;> cases Reader.optional Reader.json p d <;> rfl
  · rename_i noType noText
    rw [if_neg noType, if_neg noText]
    cases Reader.json p d <;> rfl

/-- A document that is not null has a value that is not null. -/
theorem isNull_of_optional {p : Place} {d : Document} {o : Option Json}
    (reads : Reader.optional Reader.json p d = .ok o) : ∀ t ∈ o, t.isNull = false := by
  unfold Reader.optional at reads
  split at reads
  · cases reads
    exact nofun
  · obtain ⟨v, read, rfl⟩ := map_eq_ok.1 reads
    rename_i notNull
    intro t here
    cases here
    cases Document.hasValue_of_toJson (Reader.json_eq_ok.1 read) with
    | null => exact absurd rfl notNull
    | value v =>
      cases v with
      | null => exact absurd rfl notNull
      | _ => rfl
    | _ => rfl

theorem readMember_settled {p : Place} {s s' : Draft} {name : String} {d : Document}
    (settled : s.Settled) (reads : readMember p s name d = .ok s') : s'.Settled := by
  unfold readMember at reads
  split at reads
  · split at reads
    · cases reads
    · obtain ⟨k, -, rfl⟩ := map_eq_ok.1 reads
      exact ⟨settled.unknown, settled.present⟩
  · split at reads
    · split at reads
      · cases reads
      · obtain ⟨t, read, rfl⟩ := map_eq_ok.1 reads
        exact ⟨settled.unknown, isNull_of_optional read⟩
    · rename_i noType noText
      obtain ⟨v, -, rfl⟩ := map_eq_ok.1 reads
      refine ⟨?_, settled.present⟩
      intro m member
      rcases List.mem_cons.1 member with rfl | before
      · exact isExtra_iff.2 ⟨noType, noText⟩
      · exact settled.unknown m before

/-- Reading members keeps a draft settled, since only extra members go to the others. -/
theorem readMembers_settled {p : Place} {s s' : Draft} {members : List (Token String × Document)}
    (settled : s.Settled) (reads : readMembers p s members = .ok s') : s'.Settled := by
  induction members generalizing s with
  | nil =>
    cases reads
    exact settled
  | cons m rest ih =>
    obtain ⟨key, d⟩ := m
    rw [readMembers_cons] at reads
    obtain ⟨name, -, reads⟩ := bind_eq_ok.1 reads
    obtain ⟨s', read, reads⟩ := bind_eq_ok.1 reads
    exact ih (readMember_settled settled read) reads

/-- A block is settled, whatever document it is read from. -/
theorem settled_of_reads {p : Place} {d : Document} {b : ContentBlock}
    (reads : reader p d = .ok b) : b.Settled := by
  unfold reader at reads
  split at reads
  · obtain ⟨q, -, reads⟩ := bind_eq_ok.1 reads
    obtain ⟨s, draft, finished⟩ := bind_eq_ok.1 reads
    have settled : s.Settled := readMembers_settled Draft.settled_empty draft
    obtain ⟨-, rfl⟩ := Reader.finish_eq_ok (Reader.liftText_eq_ok.1 finished)
    exact {
      sorted := Members.sorted_ofList _
      unknown := fun m member =>
        settled.unknown m (List.mem_reverse.1 (Members.mem_ofList member))
      present := settled.present }
  · exact absurd reads Reader.mismatch_ne_ok

/-- Members that hold each known key at most once make a draft of what is under these keys and of
the rest. -/
theorem readMembers_of_sorted {p : Place} {ms : Members} (s : Draft) (kind : Option String)
    (text : Option Json) (sorted : Members.Sorted ms)
    (kindFound : Members.find? "type" ms = kind.map .str)
    (freshKind : kind = none ∨ s.kind = none)
    (textFound : Members.find? "text" ms = text) (freshText : text = none ∨ s.text = none) :
    readMembers p s ms.documents = .ok {
      kind := kind.or s.kind
      text := (text.map given?).or s.text
      others := (ms.filter isExtra).reverse ++ s.others } := by
  induction ms generalizing s kind text with
  | nil =>
    cases textFound
    cases kind with
    | none => rfl
    | some k => cases kindFound
  | cons m rest ih =>
    obtain ⟨key, v⟩ := m
    obtain ⟨least, tail⟩ := List.pairwise_cons.1 sorted
    have distinct : Members.find? key rest = none := Members.find?_eq_none fun m member same =>
      String.lt_irrefl key (same ▸ least m member)
    rw [Members.documents_cons]
    rcases key_cases key v with rfl | rfl | extra
    · rw [Members.find?, if_pos rfl] at kindFound
      rw [Members.find?, if_neg (by decide)] at textFound
      cases kind with
      | none => cases kindFound
      | some k =>
        cases kindFound
        have fresh : s.kind = none := freshKind.resolve_left (Option.some_ne_none k)
        have read : Reader.string p (.value (.str k)) = .ok k := rfl
        rw [readMembers_type, fresh, read]
        have others := ih { s with kind := some k } none text tail distinct (.inl rfl) textFound
          freshText
        simpa [isExtra, Except.bind] using others
    · rw [Members.find?, if_pos rfl] at textFound
      rw [Members.find?, if_neg (by decide)] at kindFound
      subst textFound
      have fresh : s.text = none := freshText.resolve_left (Option.some_ne_none v)
      rw [readMembers_text, fresh]
      have others := ih { s with text := some (given? v) } kind none tail kindFound freshKind
        distinct (.inl rfl)
      simpa [isExtra] using others
    · obtain ⟨noType, noText⟩ := isExtra_iff.1 extra
      rw [Members.find?, if_neg noType] at kindFound
      rw [Members.find?, if_neg noText] at textFound
      have others := ih { s with others := (key, v) :: s.others } kind text tail kindFound freshKind
        textFound freshText
      rw [readMembers_extra extra, others, List.filter_cons_of_pos extra, List.reverse_cons,
        List.append_assoc]
      rfl

theorem filter_insert {key : String} {v : Json} (known : isExtra (key, v) = false) (ms : Members) :
    (Members.insert key v ms).filter isExtra = ms.filter isExtra := by
  induction ms with
  | nil => simp [Members.insert, known]
  | cons m rest ih =>
    obtain ⟨k, w⟩ := m
    rw [Members.insert]
    split
    · rw [List.filter_cons_of_neg (by simp [known])]
    · split
      · rename_i same
        subst same
        have known' : isExtra (key, w) = false := known
        rw [List.filter_cons_of_neg (by simp [known]), List.filter_cons_of_neg (by simp [known'])]
      · rw [List.filter_cons, List.filter_cons, ih]

/-- What a block is written as besides its type. -/
def untyped (b : ContentBlock) : Members :=
  match b.text with
  | some t => Members.insert "text" t b.extra
  | none => b.extra

theorem toJson_eq (b : ContentBlock) :
    b.toJson = .obj (Members.insert "type" (.str b.kind) b.untyped) := rfl

section

variable {b : ContentBlock} (settled : b.Settled)

include settled

theorem Settled.find?_extra {key : String} (known : ∀ v, isExtra (key, v) = false) :
    Members.find? key b.extra = none :=
  Members.find?_eq_none fun m member same => by
    have extra : isExtra m = true := settled.unknown m member
    rw [show m = (key, m.2) from Prod.ext same rfl, known] at extra
    cases extra

theorem Settled.sorted_untyped : Members.Sorted b.untyped := by
  unfold untyped
  cases b.text with
  | none => exact settled.sorted
  | some t => exact Members.sorted_insert settled.sorted "text" t

theorem Settled.find?_untyped : Members.find? "text" b.untyped = b.text := by
  unfold untyped
  cases b.text with
  | none => exact settled.find?_extra fun _ => rfl
  | some t => exact Members.find?_insert_self "text" t b.extra

theorem Settled.filter_untyped : b.untyped.filter isExtra = b.extra := by
  have extra : b.extra.filter isExtra = b.extra := List.filter_eq_self.2 settled.unknown
  unfold untyped
  cases b.text with
  | none => exact extra
  | some t => rw [filter_insert rfl, extra]

/-- A settled block is read back from what it is written as. -/
theorem reads_toJson : reader.Reads b.toJson b := by
  intro p inside
  obtain ⟨q, -, enters⟩ := inside.enter
  have textFound : Members.find? "text" (Members.insert "type" (.str b.kind) b.untyped) = b.text :=
    (Members.find?_insert_of_ne (by decide) _ _).trans settled.find?_untyped
  have draft := readMembers_of_sorted (p := q) .empty (some b.kind) b.text
    (Members.sorted_insert settled.sorted_untyped "type" (.str b.kind))
    (Members.find?_insert_self "type" _ _) (.inr rfl) textFound (.inr rfl)
  rw [filter_insert rfl, settled.filter_untyped] at draft
  rw [toJson_eq, reader]
  simp only [Json.expose_obj, enters, bind, Except.bind, draft]
  have joined : ((b.text.map given?).or Draft.empty.text).join = b.text := by
    cases text : b.text with
    | none => rfl
    | some t => simp [given?, settled.present t text]
  have kept : Members.ofList (b.extra.reverse ++ Draft.empty.others).reverse = b.extra := by
    rw [show Draft.empty.others = [] from rfl, List.append_nil, List.reverse_reverse,
      Members.ofList_of_sorted settled.sorted]
  rw [Draft.toBlock, joined, kept]
  rfl

end

/-- Members that are values are read alike wherever they stand. -/
theorem readMembers_place (p q : Place) (s : Draft) (ms : Members) :
    readMembers p s ms.documents =
      readMembers q s ms.documents := by
  induction ms generalizing s with
  | nil => rfl
  | cons m rest ih =>
    obtain ⟨key, v⟩ := m
    rw [Members.documents_cons]
    rcases key_cases key v with rfl | rfl | extra
    · rw [readMembers_type, readMembers_type, funext fun k => ih { s with kind := some k }]
      rfl
    · rw [readMembers_text, readMembers_text, ih]
    · rw [readMembers_extra extra, readMembers_extra extra, ih]

/-- Of a value, a block is read in the same way wherever it stands. -/
theorem reader_place {p q : Place} (inside : p.InValue) (inside' : q.InValue) (v : Json) :
    reader p (.value v) = reader q (.value v) := by
  cases v with
  | obj ms =>
    obtain ⟨p', -, enters⟩ := inside.enter
    obtain ⟨q', -, enters'⟩ := inside'.enter
    simp only [reader, Json.expose_obj, enters, enters', bind, Except.bind,
      readMembers_place p' q']
  | _ => rfl

/-- The keys that a block may not repeat. -/
def keys : List String := ["type", "text"]

/-- What a draft does not hold yet. -/
structure Draft.Lacks (s : Draft) (key : String) : Prop where
  kind : key = "type" → s.kind = none
  text : key = "text" → s.text = none

theorem Draft.lacks_empty (key : String) : Draft.empty.Lacks key := ⟨fun _ => rfl, fun _ => rfl⟩

theorem Draft.lacks_of_notMem {key : String} (other : key ∉ keys) (s : Draft) : s.Lacks key := by
  simp only [keys, List.mem_cons, List.not_mem_nil, or_false, not_or] at other
  exact ⟨fun isType => absurd isType other.1, fun isText => absurd isText other.2⟩

theorem exists_optional {p : Place} {d : Document} {v : Json} (value : d.toJson p.depth = .ok v) :
    ∃ o, Reader.optional Reader.json p d = .ok o := by
  unfold Reader.optional
  split
  · exact ⟨none, rfl⟩
  · exact ⟨some v, map_eq_ok.2 ⟨v, Reader.json_eq_ok.2 value, rfl⟩⟩

/-- A member whose value is known is read if the draft lacks it, and then the draft still lacks the
others. -/
theorem exists_readMember {p : Place} {s : Draft} {name : String} {d : Document} {v : Json}
    (value : d.toJson p.depth = .ok v) (typed : name = "type" → ∃ k, v = .str k)
    (lacks : s.Lacks name) :
    ∃ s', readMember p s name d = .ok s' ∧ ∀ key, key ≠ name → s.Lacks key → s'.Lacks key := by
  unfold readMember
  by_cases isType : name = "type"
  · subst isType
    obtain ⟨k, rfl⟩ := typed rfl
    rw [if_pos rfl, lacks.kind rfl, Document.string_of_toJson value]
    exact ⟨_, rfl, fun key other lacks => ⟨fun same => absurd same other, lacks.text⟩⟩
  rw [if_neg isType]
  by_cases isText : name = "text"
  · subst isText
    obtain ⟨o, read⟩ := exists_optional value
    rw [if_pos rfl, lacks.text rfl, read]
    exact ⟨_, rfl, fun key other lacks => ⟨lacks.kind, fun same => absurd same other⟩⟩
  rw [if_neg isText, Reader.json_eq_ok.2 value]
  exact ⟨_, rfl, fun key _ lacks => ⟨lacks.kind, lacks.text⟩⟩

/-- Members are read if their values are known, their type is a text and no key is repeated. -/
theorem exists_readMembers {p : Place} {s : Draft} {members : List (Token String × Document)}
    {ms : List (String × Json)} (values : Document.membersToJson p.depth members = .ok ms)
    (typed : ∀ w, ("type", w) ∈ ms → ∃ k, w = .str k) (once : Members.Once keys ms)
    (lacks : ∀ m ∈ ms, s.Lacks m.1) : ∃ s', readMembers p s members = .ok s' := by
  induction members generalizing s ms with
  | nil => exact ⟨s, rfl⟩
  | cons m rest ih =>
    obtain ⟨key, d⟩ := m
    obtain ⟨name, v, others, named, value, tail, rfl⟩ :=
      Document.membersToJson_cons_eq_ok.1 values
    obtain ⟨first, once⟩ := List.pairwise_cons.1 once
    have typed' : name = "type" → ∃ k, v = .str k := by
      rintro rfl
      exact typed v List.mem_cons_self
    obtain ⟨s₁, read, still⟩ := exists_readMember value typed' (lacks (name, v) List.mem_cons_self)
    have lacks' : ∀ m ∈ others, s₁.Lacks m.1 := by
      intro m member
      by_cases same : m.1 = name
      · refine Draft.lacks_of_notMem (fun among => ?_) s₁
        exact first m member (same ▸ among) same
      · exact still m.1 same (lacks m (List.mem_cons_of_mem _ member))
    have typedTail : ∀ w, ("type", w) ∈ others → ∃ k, w = .str k := fun w member =>
      typed w (List.mem_cons_of_mem _ member)
    obtain ⟨s', reads⟩ := ih tail typedTail once lacks'
    refine ⟨s', ?_⟩
    rw [readMembers_cons, named]
    exact bind_eq_ok.2 ⟨name, rfl, bind_eq_ok.2 ⟨s₁, read, reads⟩⟩

/-- The type of a block that is read from a value is a text. -/
theorem typed_of_reads {p : Place} {s s' : Draft} {ms : Members}
    (reads : readMembers p s ms.documents = .ok s') {w : Json}
    (found : Members.find? "type" ms = some w) : ∃ k, w = .str k := by
  induction ms generalizing s with
  | nil => cases found
  | cons m rest ih =>
    obtain ⟨key, v⟩ := m
    rw [Members.documents_cons] at reads
    by_cases isType : key = "type"
    · subst isType
      rw [Members.find?, if_pos rfl] at found
      cases found
      rw [readMembers_type] at reads
      split at reads
      · cases reads
      · obtain ⟨k, read, -⟩ := bind_eq_ok.1 reads
        cases w with
        | str k => exact ⟨k, rfl⟩
        | _ => exact absurd read Reader.mismatch_ne_ok
    · rw [Members.find?, if_neg isType] at found
      rw [readMembers_cons] at reads
      obtain ⟨_, -, reads⟩ := bind_eq_ok.1 reads
      obtain ⟨s₁, -, reads⟩ := bind_eq_ok.1 reads
      exact ih reads found

/-- If the value of a document is a block, so is the document, unless it repeats a key. -/
theorem exists_reads_of_value {p q : Place} {d : Document} {n : Nat} {v : Json} {b : ContentBlock}
    (apart : ∀ members ending, d = .obj members ending → Document.Apart keys members)
    (value : d.toJson n = .ok v) (deep : n ≤ p.depth)
    (inside : p.InValue) (inside' : q.InValue) (reads : reader q (.value v) = .ok b) :
    ∃ b', reader p d = .ok b' := by
  cases Document.hasValue_of_toJson value with
  | value => exact ⟨b, (reader_place inside inside' v).trans reads⟩
  | @obj members ms values =>
    obtain ⟨q', -, reads⟩ := bind_eq_ok.1 reads
    obtain ⟨s, draft, -⟩ := bind_eq_ok.1 reads
    have once' : Members.Once keys ms := (apart members none rfl).values values
    have typed : ∀ w, ("type", w) ∈ ms → ∃ k, w = .str k := fun w member =>
      typed_of_reads draft (once'.find?_ofList List.mem_cons_self member)
    have values' := Document.membersToJson_mono members _ (p.depth - 1) ms (by omega) values
    obtain ⟨s', reads'⟩ := exists_readMembers (p := { p with depth := p.depth - 1 }) values' typed
      once' fun m _ => Draft.lacks_empty m.1
    refine ⟨s'.toBlock, ?_⟩
    simp only [reader, Document.expose, inside.enter_eq, bind, Except.bind, reads']
    rfl
  | _ => exact absurd reads Reader.mismatch_ne_ok

end ContentBlock

namespace Content

/-- Content as it is read. -/
def Settled : Content → Prop
  | .text _ => True
  | .blocks bs => ∀ b ∈ bs, b.Settled
  | .other v => ofJson v = .other v

/-- Of a value, content is told apart in the same way wherever it stands. -/
theorem classify_eq_ofJson (p : Place) (v : Json) : classify p (.value v) v = ofJson v := by
  cases v with
  | arr elems =>
    have read : ∀ v, ContentBlock.reader p.setAside (.value v) =
        ContentBlock.reader Place.ofValue.setAside (.value v) :=
      ContentBlock.reader_place p.inValue_setAside (Place.inValue_setAside _)
    have blocks : (elems.map Document.value).mapM (ContentBlock.reader p.setAside) =
        (elems.map Document.value).mapM (ContentBlock.reader Place.ofValue.setAside) := by
      rw [List.mapM_map, List.mapM_map]
      exact congrArg (elems.mapM ·) (funext read)
    simp only [ofJson, classify, Document.expose, blocks]
  | _ => rfl

section

variable {elems : List Json}

/-- An array of blocks is a list of blocks. -/
theorem ofJson_of_ok {bs : List ContentBlock} (blocks : (elems.map Document.value).mapM
    (ContentBlock.reader Place.ofValue.setAside) = .ok bs) : ofJson (.arr elems) = .blocks bs := by
  simp only [ofJson, classify, Document.expose, blocks]

/-- An array with anything else in it is not. -/
theorem ofJson_of_error {fault : Json.DecodeFault} (blocks : (elems.map Document.value).mapM
    (ContentBlock.reader Place.ofValue.setAside) = .error fault) :
    ofJson (.arr elems) = .other (.arr elems) := by
  simp only [ofJson, classify, Document.expose, blocks]

end

/-- Content is told apart again as before, whatever value it comes from. -/
theorem settled_ofJson (v : Json) : (ofJson v).Settled := by
  cases v with
  | arr elems =>
    cases blocks : (elems.map Document.value).mapM (ContentBlock.reader Place.ofValue.setAside) with
    | ok bs =>
      rw [ofJson_of_ok blocks]
      intro b member
      obtain ⟨d, among, block⟩ := Reader.mapM_yields blocks b member
      obtain ⟨w, -, rfl⟩ := List.mem_map.1 among
      exact ContentBlock.settled_of_reads block
    | error fault =>
      rw [ofJson_of_error blocks]
      exact ofJson_of_error blocks
  | str s => trivial
  | _ => rfl

/-- Settled content is told apart again as what it was. -/
theorem ofJson_toJson {c : Content} (settled : c.Settled) : ofJson c.toJson = c := by
  cases c with
  | text s => rfl
  | blocks bs =>
    have blocks : ((bs.map ContentBlock.toJson).map Document.value).mapM
        (ContentBlock.reader Place.ofValue.setAside) = .ok bs := by
      rw [List.map_map]
      exact Reader.mapM_reads fun b member =>
        ContentBlock.reads_toJson (settled b member) _ (Place.inValue_setAside _)
    exact ofJson_of_ok blocks
  | other v => exact settled

/-- If the values of elements are blocks, so are the elements, unless one of them repeats a key. -/
theorem exists_blocks_of_values {p q : Place} {elems : List Document} {n : Nat} {vs : List Json}
    {bs : List ContentBlock}
    (apart : ∀ members ending, .obj members ending ∈ elems →
      Document.Apart ContentBlock.keys members)
    (values : Document.elementsToJson n elems = .ok vs) (deep : n ≤ p.depth) (inside : p.InValue)
    (inside' : q.InValue)
    (blocks : (vs.map Document.value).mapM (ContentBlock.reader q) = .ok bs) :
    ∃ bs', elems.mapM (ContentBlock.reader p) = .ok bs' := by
  induction elems generalizing vs bs with
  | nil => exact ⟨[], rfl⟩
  | cons d rest ih =>
    obtain ⟨v, others, value, tail, rfl⟩ := Document.elementsToJson_cons_eq_ok.1 values
    rw [List.map_cons, List.mapM_cons] at blocks
    obtain ⟨b, block, blocks⟩ := bind_eq_ok.1 blocks
    obtain ⟨bs, blocks, -⟩ := bind_eq_ok.1 blocks
    have here : ∀ members ending, d = .obj members ending →
        Document.Apart ContentBlock.keys members := by
      rintro members ending rfl
      exact apart members ending List.mem_cons_self
    obtain ⟨b', block'⟩ := ContentBlock.exists_reads_of_value here value deep inside inside' block
    obtain ⟨bs', blocks'⟩ := ih (fun members ending member =>
      apart members ending (List.mem_cons_of_mem _ member)) tail blocks
    refine ⟨b' :: bs', ?_⟩
    rw [List.mapM_cons, block', blocks']
    rfl

/-- A document of content in which no block repeats a key that blocks know. -/
def BlocksApart (d : Document) : Prop :=
  ∀ elems ending, d = .arr elems ending → ∀ members stop, .obj members stop ∈ elems →
    Document.Apart ContentBlock.keys members

/-- In a value no key is repeated. -/
theorem blocksApart_value (v : Json) : BlocksApart (.value v) := nofun

/-- Content is settled, whatever document it is read from, unless a block repeats a key that blocks
know. -/
theorem settled_of_reads {p : Place} {d : Document} {c : Content} (apart : BlocksApart d)
    (reads : reader p d = .ok c) : c.Settled := by
  obtain ⟨v, value, rfl⟩ := map_eq_ok.1 reads
  cases Document.hasValue_of_toJson (Reader.json_eq_ok.1 value) with
  | value v =>
    rw [classify_eq_ofJson]
    exact settled_ofJson v
  | @arr elems vs values =>
    cases blocks : elems.mapM (ContentBlock.reader p.setAside) with
    | ok bs =>
      have told : classify p (.arr elems none) (.arr vs) = .blocks bs := by
        simp only [classify, Document.expose, blocks]
      rw [told]
      intro b member
      obtain ⟨d, -, block⟩ := Reader.mapM_yields blocks b member
      exact ContentBlock.settled_of_reads block
    | error fault =>
      have told : classify p (.arr elems none) (.arr vs) = .other (.arr vs) := by
        simp only [classify, Document.expose, blocks]
      rw [told]
      change ofJson (.arr vs) = .other (.arr vs)
      cases read : (vs.map Document.value).mapM
          (ContentBlock.reader Place.ofValue.setAside) with
      | error fault => exact ofJson_of_error read
      | ok bs =>
        have deep : p.depth - 1 ≤ p.setAside.depth := Nat.sub_le _ _
        obtain ⟨bs', blocks'⟩ := exists_blocks_of_values (apart elems none rfl) values deep
          p.inValue_setAside (Place.inValue_setAside _) read
        cases blocks'.symm.trans blocks
  | str read => trivial
  | _ => rfl

/-- Content is read from every value. -/
theorem reader_value (p : Place) (v : Json) : reader p (.value v) = .ok (ofJson v) :=
  congrArg Except.ok (classify_eq_ofJson p v)

/-- Settled content is read back from what it is written as. -/
theorem reads_toJson {c : Content} (settled : c.Settled) : reader.Reads c.toJson c := by
  intro p _
  rw [reader_value, ofJson_toJson settled]

end Content
end ChatRelay
