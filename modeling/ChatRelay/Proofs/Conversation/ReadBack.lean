import ChatRelay.Conversation.Request
import ChatRelay.Conversation.Response
import ChatRelay.Conversation.Session
import ChatRelay.Proofs.Conversation.Content

/-!
# Items, sessions, requests and responses read back

Each of these is written as an object whose members are read by name, so what is written is read
field by field: a member that is always there by `Takes.make`, one that is left out when it is
absent by `Takes.optional`. What a reader yields is settled: its content is told apart as before
when it is looked at again, whatever value it came from, and whatever text in which no content block
repeats a key.
-/
namespace ChatRelay

open Json (Document Members Place Reader Token)
open Json.Reader (RecordField bind_eq_ok map_eq_ok record_reads record_yields)

theorem Role.ofName_name (r : Role) : Role.ofName r.name = r := by
  cases r <;> decide

theorem Role.reads_toJson (r : Role) : Role.reader.Reads r.toJson r := by
  intro p _
  have read : Role.reader p (.value r.toJson) = .ok (Role.ofName r.name) := rfl
  rw [read, ofName_name]

theorem Status.reads_toJson (s : Status) : Status.reader.Reads s.toJson s := by
  intro p _
  cases s <;> rfl

theorem FunctionCall.reads_toJson (c : FunctionCall) : reader.Reads c.toJson c := by
  refine record_reads (by simp [fields, RecordField.make]) (by simp [fields]) fun p inside => ?_
  refine
    .cons (.make ?_ inside (Reader.string_reads c.name)) <|
    .cons (.make ?_ inside (Reader.json_reads c.arguments)) <|
    .cons (.optional .str c.callId ?_ inside (fun s _ => ⟨rfl, Reader.string_reads s⟩) rfl) .nil
  all_goals
    simp [Members.find?_ofList, List.lookup_append, List.lookup_cons, Json.lookup_optional_of_ne]

theorem FunctionOutput.reads_toJson (o : FunctionOutput) : reader.Reads o.toJson o := by
  refine record_reads (by simp [fields, RecordField.make]) (by simp [fields]) fun p inside => ?_
  refine
    .cons (.optional .str o.callId ?_ inside (fun s _ => ⟨rfl, Reader.string_reads s⟩) rfl) <|
    .cons (.optional .str o.name ?_ inside (fun s _ => ⟨rfl, Reader.string_reads s⟩) rfl) <|
    .cons (.make ?_ inside (Reader.json_reads o.output)) .nil
  all_goals
    simp [Members.find?_ofList, List.lookup_append, List.lookup_cons, Json.lookup_optional_of_ne]

theorem Usage.reads_toJson (u : Usage) : reader.Reads u.toJson u := by
  refine record_reads (by simp [fields, RecordField.make]) (by simp [fields]) fun p inside => ?_
  refine
    .cons (.make ?_ inside (Reader.uint64_reads u.prompt)) <|
    .cons (.make ?_ inside (Reader.uint64_reads u.completion)) <|
    .cons (.make ?_ inside (Reader.uint64_reads u.total)) <|
    .cons (.optional Json.ofUInt64 u.cacheCreation ?_ inside
      (fun n _ => ⟨rfl, Reader.uint64_reads n⟩) rfl) <|
    .cons (.optional Json.ofUInt64 u.cacheRead ?_ inside
      (fun n _ => ⟨rfl, Reader.uint64_reads n⟩) rfl) .nil
  all_goals
    simp [Members.find?_ofList, List.lookup_append, List.lookup_cons, Json.lookup_optional_of_ne]

namespace Item

/-- An item as it is read: its content is. -/
def Settled : Item → Prop
  | .message _ c => c.Settled
  | .text _ c => c.Settled
  | .call _ => True
  | .output _ => True
  | .unknown => True

/-- A document that names an item with content, which is a message or a text. -/
def Speaks (d : Document) : Prop :=
  ∃ token, d.expose = .str token ∧ (token.read = .ok "message" ∨ token.read = .ok "text")

/-- Parts of which the content has no block that repeats a key. -/
def Parts.BlocksApart : Parts → Prop
  | .members ms => ∀ m ∈ ms, m.1.read = .ok "content" → Content.BlocksApart m.2
  | .elements ds => ∀ d, ds[1]? = some d → Content.BlocksApart d

/-- A document of an item in which no block repeats a key. The keys of a call, of an output and of
an item of another type are not looked at. -/
structure BlocksApart (d : Document) : Prop where
  members : ∀ ms ending, d.expose = .obj ms ending →
    ∀ t ∈ ms, t.1.read = .ok "type" → Speaks t.2 → (Parts.members ms).BlocksApart
  elements : ∀ t rest ending, d.expose = .arr (t :: rest) ending → Speaks t →
    (Parts.elements rest).BlocksApart

theorem blocksApart_value (v : Json) : BlocksApart (.value v) where
  members ms ending stands _ _ _ _ m member _ := by
    cases v <;> cases stands
    obtain ⟨w, -, rfl⟩ := List.mem_map.1 member
    exact Content.blocksApart_value w.2
  elements t rest ending stands _ c found := by
    cases v with
    | arr elems =>
      have same : elems.map Document.value = t :: rest := (Document.arr.inj stands).1
      have member : c ∈ elems.map Document.value :=
        same ▸ List.mem_cons_of_mem _ (List.mem_of_getElem? found)
      obtain ⟨w, -, rfl⟩ := List.mem_map.1 member
      exact Content.blocksApart_value w
    | _ => cases stands

/-- Where a message or a text is read, its type has been named. -/
theorem speaks_of_kindReader {p : Place} {d : Document} {kind : Kind}
    (reads : kindReader p d = .ok kind) (speaks : kind = .message ∨ kind = .text) : Speaks d := by
  unfold kindReader at reads
  split at reads
  · rename_i token stands
    obtain ⟨name, read, rfl⟩ := map_eq_ok.1 reads
    rw [Reader.liftText_eq_ok] at read
    refine ⟨token, stands, ?_⟩
    rw [read]
    unfold Kind.ofName at speaks
    split at speaks <;> simp_all
  · exact absurd reads Reader.mismatch_ne_ok

section

variable {ρ : Type} {p : Place}

/-- The fields of a role and of content, however the role is read. -/
def spokenFields (roles : Reader ρ) : List (RecordField (ρ × Content)) := [
  .make "role" false roles fun s r => (r, s.2),
  .make "content" false Content.reader fun s c => (s.1, c)]

theorem spokenFields_keep (roles : Reader ρ) : ∀ f ∈ spokenFields roles,
    f.KeepsOn (fun name d => name = "content" → Content.BlocksApart d) p fun s => s.2.Settled := by
  simp only [spokenFields, List.forall_mem_cons]
  exact ⟨RecordField.make_keepsOn (fun _ _ _ _ => trivial) fun _ _ settled _ => settled,
    RecordField.make_keepsOn (fun _ _ fits read => Content.settled_of_reads (fits rfl) read)
      fun _ _ _ settled => settled,
    nofun⟩

/-- The content of a message is settled however its role is read, if no block repeats a key. -/
theorem settled_of_recordOfParts {title : String} {roles : Reader ρ} {start r : ρ} {parts : Parts}
    {c : Content} (apart : parts.BlocksApart)
    (reads : recordOfParts title (spokenFields roles) (start, .text "") p parts = .ok (r, c)) :
    c.Settled := by
  have was : (start, Content.text "").2.Settled := trivial
  cases parts with
  | members ms =>
    have fits : ∀ m ∈ ms, ∀ name, m.1.read = .ok name → name = "content" →
        Content.BlocksApart m.2 := by
      rintro m member name named rfl
      exact apart m member named
    have kept := Reader.recordOfMembers_keeps (spokenFields_keep roles) fits was reads
    exact kept
  | elements ds =>
    have fits : ∀ x ∈ (spokenFields roles).zip ds, x.1.name = "content" →
        Content.BlocksApart x.2 := by
      -- The content is the second element, and the first is the role.
      rcases ds with - | ⟨role, - | ⟨content, rest⟩⟩
      · nofun
      · simp [spokenFields, RecordField.make]
      · simpa [spokenFields, RecordField.make] using apart content rfl
    have kept := Reader.recordOfElements_keeps (spokenFields_keep roles) fits was reads
    exact kept

end

/-- Of an item, only the content of a message or of a text can fail to be settled. -/
theorem ofParts_settled {p : Place} {parts : Parts} {kind : Kind} {i : Item}
    (apart : kind = .message ∨ kind = .text → parts.BlocksApart)
    (reads : ofParts p parts kind = .ok i) : i.Settled := by
  cases kind with
  | message =>
    obtain ⟨⟨r, c⟩, parts, reads⟩ := bind_eq_ok.1 reads
    cases reads
    exact settled_of_recordOfParts (apart (.inl rfl)) parts
  | text =>
    obtain ⟨⟨r, c⟩, parts, reads⟩ := bind_eq_ok.1 reads
    cases reads
    exact settled_of_recordOfParts (apart (.inr rfl)) parts
  | call =>
    obtain ⟨c, -, rfl⟩ := map_eq_ok.1 reads
    trivial
  | output =>
    obtain ⟨o, -, rfl⟩ := map_eq_ok.1 reads
    trivial
  | unknown =>
    cases parts with
    | members ms =>
      cases reads
      trivial
    | elements ds =>
      cases ds with
      | nil =>
        cases reads
        trivial
      | cons d ds => cases reads

section

variable {p : Place} {kind : Option Kind} {v : Json} {rest : List (Token String × Document)}

theorem splitMembers_type :
    splitMembers p kind ((.ok "type", .value v) :: rest) =
      if kind.isSome then .error (.duplicateField "type")
      else (kindReader p (.value v)).bind fun k => splitMembers p (some k) rest := by
  simp only [splitMembers, Token.ok, Reader.liftText, Except.mapError, bind, Except.bind]
  rfl

theorem splitMembers_other {key : String} (other : key ≠ "type") :
    splitMembers p kind ((.ok key, .value v) :: rest) =
      (splitMembers p kind rest).map fun r => (r.1, (.ok key, .value v) :: r.2) := by
  simp only [splitMembers, Token.ok, Reader.liftText, Except.mapError, bind, Except.bind,
    if_neg other]
  rfl

end

/-- A member names the kind or is set aside, and the others are split after it. -/
theorem splitMembers_cons {p : Place} {kind kind' : Option Kind} {key : Token String} {d : Document}
    {rest others : List (Token String × Document)}
    (splits : splitMembers p kind ((key, d) :: rest) = .ok (kind', others)) :
    (key.read = .ok "type" ∧
        ∃ k, kindReader p d = .ok k ∧ splitMembers p (some k) rest = .ok (kind', others)) ∨
      key.read ≠ .ok "type" ∧
        ∃ later, splitMembers p kind rest = .ok (kind', later) ∧ others = (key, d) :: later := by
  obtain ⟨name, read, splits⟩ := bind_eq_ok.1 splits
  rw [Reader.liftText_eq_ok] at read
  by_cases isType : name = "type"
  · subst isType
    rw [if_pos rfl] at splits
    split at splits
    · cases splits
    · obtain ⟨k, named, splits⟩ := bind_eq_ok.1 splits
      exact .inl ⟨read, k, named, splits⟩
  · rw [if_neg isType] at splits
    obtain ⟨_, -, splits⟩ := bind_eq_ok.1 splits
    obtain ⟨⟨k, later⟩, further, same⟩ := bind_eq_ok.1 splits
    cases same
    refine .inr ⟨fun named => isType ?_, later, further, rfl⟩
    exact Except.ok.inj (read.symm.trans named)

/-- The members besides the type are set aside as they stand. -/
theorem splitMembers_subset {p : Place} {kind kind' : Option Kind}
    {members others : List (Token String × Document)}
    (splits : splitMembers p kind members = .ok (kind', others)) : others ⊆ members := by
  induction members generalizing kind others with
  | nil =>
    cases splits
    exact List.Subset.refl _
  | cons m rest ih =>
    rcases splitMembers_cons splits with ⟨-, k, -, further⟩ | ⟨-, later, further, rfl⟩
    · exact List.subset_cons_of_subset _ (ih further)
    · exact List.cons_subset_cons _ (ih further)

/-- The kind is known before or named by a member. -/
theorem exists_of_splitMembers {p : Place} {kind : Option Kind} {kind' : Kind}
    {members others : List (Token String × Document)}
    (splits : splitMembers p kind members = .ok (some kind', others)) :
    kind = some kind' ∨
      ∃ t ∈ members, t.1.read = .ok "type" ∧ kindReader p t.2 = .ok kind' := by
  induction members generalizing kind others with
  | nil =>
    cases splits
    exact .inl rfl
  | cons m rest ih =>
    rcases splitMembers_cons splits with ⟨isType, k, named, further⟩ | ⟨-, later, further, -⟩
    · rcases ih further with same | ⟨t, member, names⟩
      · cases same
        exact .inr ⟨m, List.mem_cons_self, isType, named⟩
      · exact .inr ⟨t, List.mem_cons_of_mem _ member, names⟩
    · rcases ih further with before | ⟨t, member, names⟩
      · exact .inl before
      · exact .inr ⟨t, List.mem_cons_of_mem _ member, names⟩

/-- An item is settled, whatever document it is read from, unless a block repeats a key that blocks
know. -/
theorem settled_of_reads {p : Place} {d : Document} {i : Item} (apart : BlocksApart d)
    (reads : reader p d = .ok i) : i.Settled := by
  unfold reader at reads
  split at reads
  · rename_i members ending stands
    obtain ⟨q, -, reads⟩ := bind_eq_ok.1 reads
    obtain ⟨⟨kind, others⟩, splits, reads⟩ := bind_eq_ok.1 reads
    obtain ⟨_, -, reads⟩ := bind_eq_ok.1 reads
    cases kind with
    | none => cases reads
    | some kind =>
      refine ofParts_settled ?_ reads
      intro speaks m member
      rcases exists_of_splitMembers splits with unnamed | ⟨t, among, isType, named⟩
      · cases unnamed
      · exact apart.members members ending stands t among isType
          (speaks_of_kindReader named speaks) m (splitMembers_subset splits member)
  · obtain ⟨_, -, reads⟩ := bind_eq_ok.1 reads
    obtain ⟨_, -, reads⟩ := bind_eq_ok.1 reads
    cases reads
  · rename_i first rest ending stands
    obtain ⟨q, -, reads⟩ := bind_eq_ok.1 reads
    obtain ⟨kind, named, reads⟩ := bind_eq_ok.1 reads
    obtain ⟨_, -, reads⟩ := bind_eq_ok.1 reads
    obtain ⟨_, -, reads⟩ := bind_eq_ok.1 reads
    refine ofParts_settled ?_ reads
    intro speaks
    exact apart.elements first rest ending stands (speaks_of_kindReader named speaks)
  · exact absurd reads Reader.mismatch_ne_ok

theorem reader_yields : reader.Yields Settled := fun _ v _ _ reads =>
  settled_of_reads (blocksApart_value v) reads

theorem Kind.ofName_name (k : Kind) : Kind.ofName k.name = k := by
  cases k <;> rfl

/-- From sorted members the type is taken out, and the others stay as they are. -/
theorem splitMembers_of_sorted {p : Place} {ms : Members} (kind : Option Kind)
    (name : Option String) (sorted : Members.Sorted ms)
    (typed : Members.find? "type" ms = name.map .str) (once : name = none ∨ kind = none) :
    splitMembers p kind ms.documents =
      .ok ((name.map Kind.ofName).or kind, (Members.erase "type" ms).documents) := by
  induction ms generalizing kind name with
  | nil =>
    cases name with
    | none => rfl
    | some t => cases typed
  | cons m rest ih =>
    obtain ⟨key, v⟩ := m
    obtain ⟨least, tail⟩ := List.pairwise_cons.1 sorted
    rw [Members.documents_cons]
    by_cases isType : key = "type"
    · subst isType
      rw [Members.find?, if_pos rfl] at typed
      cases name with
      | none => cases typed
      | some t =>
        cases typed
        obtain rfl : kind = none := once.resolve_left (Option.some_ne_none t)
        have distinct : Members.find? "type" rest = none :=
          Members.find?_eq_none fun m member same =>
            String.lt_irrefl "type" (same ▸ least m member)
        have named : kindReader p (.value (.str t)) = .ok (Kind.ofName t) := rfl
        have others := ih (some (Kind.ofName t)) none tail distinct (.inl rfl)
        rw [splitMembers_type, named]
        simpa [Members.erase, Except.bind] using others
    · rw [Members.find?, if_neg isType] at typed
      rw [splitMembers_other isType, ih kind name tail typed once]
      simp [Members.erase, isType, Except.map]

/-- The members of an item besides its type, in the order in which they are written. -/
def untyped (kind : Kind) (written : List (String × Json)) : Members :=
  Members.erase "type" (Members.ofList (("type", .str kind.name) :: written))

theorem find?_untyped {kind : Kind} {key : String} (other : key ≠ "type")
    (written : List (String × Json)) :
    Members.find? key (untyped kind written) = written.reverse.lookup key := by
  rw [untyped, Members.find?_erase_of_ne other, Members.find?_ofList, List.reverse_cons,
    List.lookup_append, Json.lookup_cons_of_ne other]
  simp

/-- An item is read back from its type and what its other members are read as. -/
theorem reads_tagged {kind : Kind} {written : List (String × Json)} {i : Item}
    (once : written.reverse.lookup "type" = none)
    (reads : ∀ p : Place, p.InValue →
      ofParts p (.members (untyped kind written).documents) kind =
        .ok i) :
    reader.Reads (tagged kind written) i := by
  intro p inside
  obtain ⟨q, -, enters⟩ := inside.enter
  have typed : Members.find? "type" (Members.ofList (("type", .str kind.name) :: written)) =
      some (.str kind.name) := by
    rw [Members.find?_ofList, List.reverse_cons, List.lookup_append, once]
    simp
  have splits := splitMembers_of_sorted (p := q) none (some kind.name)
    (Members.sorted_ofList _) typed (.inr rfl)
  rw [Option.map_some, Kind.ofName_name] at splits
  simp only [reader, tagged, Json.object, Json.expose_obj, enters, bind, Except.bind, splits]
  exact reads q.setAside q.inValue_setAside

/-- The fields of an item from the members that they were written as. -/
theorem recordOfParts_reads {σ : Type} {title : String} {fields : List (RecordField σ)}
    {start x : σ} {p : Place} {kind : Kind} {written : List (String × Json)}
    (apart : fields.Pairwise fun f g => f.name ≠ g.name)
    (commutes : fields.Pairwise RecordField.Commutes)
    (takes : RecordField.TakesAll p (untyped kind written) [] fields start x) :
    recordOfParts title fields start p
      (.members (untyped kind written).documents) = .ok x :=
  Reader.recordOfMembers_of_takesAll takes apart commutes ((Members.sorted_ofList _).filter _)

/-- A settled item is read back from what it is written as. -/
theorem reads_toJson {i : Item} (settled : i.Settled) : reader.Reads i.toJson i := by
  cases i with
  | message r c =>
    refine reads_tagged (by simp [List.lookup_cons]) fun p inside => ?_
    refine bind_eq_ok.2 ⟨(r, c), recordOfParts_reads (by simp [messageFields, RecordField.make])
      (by simp [messageFields]) ?_, rfl⟩
    refine
      .cons (.make ?_ inside r.reads_toJson) <|
      .cons (.make ?_ inside (Content.reads_toJson settled)) .nil
    all_goals simp [find?_untyped, List.lookup_cons]
  | text r c =>
    refine reads_tagged (by simp [List.lookup_cons, Json.lookup_optional_of_ne]) fun p inside => ?_
    refine bind_eq_ok.2 ⟨(r, c), recordOfParts_reads (by simp [textFields, RecordField.make])
      (by simp [textFields]) ?_, rfl⟩
    refine
      .cons (.optional Role.toJson r ?_ inside (fun r _ => ⟨rfl, r.reads_toJson⟩) rfl) <|
      .cons (.make ?_ inside (Content.reads_toJson settled)) .nil
    all_goals simp [find?_untyped, List.lookup_cons]
  | call c =>
    refine reads_tagged (by simp [List.lookup_cons]) fun p inside => ?_
    refine map_eq_ok.2 ⟨c, recordOfParts_reads (by simp [callFields]) (by simp [callFields]) ?_,
      rfl⟩
    refine .cons (.make ?_ inside c.reads_toJson) .nil
    simp [find?_untyped]
  | output o =>
    refine reads_tagged (by simp [List.lookup_cons]) fun p inside => ?_
    refine map_eq_ok.2 ⟨o, recordOfParts_reads (by simp [outputFields]) (by simp [outputFields]) ?_,
      rfl⟩
    refine .cons (.make ?_ inside o.reads_toJson) .nil
    simp [find?_untyped]
  | unknown => exact reads_tagged rfl fun _ _ => rfl

end Item

namespace Session

/-- A session as it is read: its items are. -/
def Settled (s : Session) : Prop := ∀ i ∈ s.items, i.Settled

theorem reader_yields : reader.Yields Settled := by
  refine record_yields ?_ (show Settled (ofId "") from nofun)
  simp only [fields, List.forall_mem_cons]
  exact ⟨RecordField.make_keeps_of_unseen fun _ _ settled => settled,
    RecordField.make_keeps (Reader.list_yields Item.reader_yields) fun _ _ _ items => items, nofun⟩

theorem reads_toJson {s : Session} (settled : s.Settled) : reader.Reads s.toJson s := by
  refine record_reads (by simp [fields, RecordField.make]) (by simp [fields]) fun p inside => ?_
  refine
    .cons (.make ?_ inside (Reader.string_reads s.id)) <|
    .cons (.make ?_ inside (Reader.list_reads fun i member => Item.reads_toJson (settled i member)))
    .nil
  all_goals simp [Members.find?_ofList, List.lookup_cons]

end Session

namespace ToolDefinition

/-- A definition as it is read: parameters that are null count as none. -/
def Settled (t : ToolDefinition) : Prop := ∀ v ∈ t.parameters, v.isNull = false

theorem reader_yields : reader.Yields Settled := by
  have parameters : (Reader.optional Reader.json).Yields fun o => ∀ v ∈ o, v.isNull = false :=
    Reader.optional_yields fun _ _ _ _ present reads => by
      cases reads
      exact present
  refine record_yields ?_ (show Settled empty from nofun)
  simp only [fields, List.forall_mem_cons]
  exact ⟨RecordField.make_keeps_of_unseen fun _ _ settled => settled,
    RecordField.make_keeps_of_unseen fun _ _ settled => settled,
    RecordField.make_keeps_of_unseen fun _ _ settled => settled,
    RecordField.make_keeps parameters fun _ _ _ present => present, nofun⟩

theorem reads_toJson {t : ToolDefinition} (settled : t.Settled) : reader.Reads t.toJson t := by
  refine record_reads (by simp [fields, RecordField.make]) (by simp [fields]) fun p inside => ?_
  refine
    .cons (.make ?_ inside (Reader.string_reads t.kind)) <|
    .cons (.make ?_ inside (Reader.string_reads t.name)) <|
    .cons (.optional .str t.description ?_ inside
      (fun s _ => ⟨rfl, Reader.string_reads s⟩) rfl) <|
    .cons (.optional id t.parameters ?_ inside
      (fun v given => ⟨settled v given, Reader.json_reads v⟩) rfl) .nil
  all_goals
    simp [Members.find?_ofList, List.lookup_append, List.lookup_cons, Json.lookup_optional_of_ne]

end ToolDefinition

namespace Request

/-- A request as it is read: its tools are. -/
def Settled (r : Request) : Prop := ∀ t ∈ r.tools, t.Settled

theorem reader_yields : reader.Yields Settled := by
  refine record_yields ?_ (show Settled (ofInput .null) from nofun)
  simp only [fields, List.forall_mem_cons]
  have tools := Reader.list_yields ToolDefinition.reader_yields
  refine ⟨?_, ?_, ?_, ?_, ?_, ?_, ?_, RecordField.make_keeps tools fun _ _ _ read => read, nofun⟩
  all_goals exact RecordField.make_keeps_of_unseen fun _ _ settled => settled

/-- The tools as an optional member. -/
theorem toJson_eq (r : Request) : r.toJson = Json.object ([("input", r.input)]
    ++ Json.optional "instructions" (r.instructions.map .str)
    ++ Json.optional "model" (r.model.map .str)
    ++ Json.optional "max_tokens" (r.maxTokens.map Json.ofUInt32)
    ++ Json.optional "temperature" (r.temperature.map Json.ofDouble)
    ++ Json.optional "top_p" (r.topP.map Json.ofDouble)
    ++ Json.optional "stop" (r.stop.map textsToJson)
    ++ Json.optional "tools"
      (if r.tools.isEmpty then none else some (.arr (r.tools.map ToolDefinition.toJson)))) := by
  rw [toJson]
  cases r.tools <;> rfl

theorem reads_toJson {r : Request} (settled : r.Settled) : reader.Reads r.toJson r := by
  rw [toJson_eq]
  refine record_reads (by simp [fields, RecordField.make]) (by simp [fields]) fun p inside => ?_
  refine
    .cons (.make ?_ inside (Reader.json_reads r.input)) <|
    .cons (.optional .str r.instructions ?_ inside
      (fun s _ => ⟨rfl, Reader.string_reads s⟩) rfl) <|
    .cons (.optional .str r.model ?_ inside (fun s _ => ⟨rfl, Reader.string_reads s⟩) rfl) <|
    .cons (.optional Json.ofUInt32 r.maxTokens ?_ inside
      (fun n _ => ⟨rfl, Reader.uint32_reads n⟩) rfl) <|
    .cons (.optional Json.ofDouble r.temperature ?_ inside
      (fun d _ => ⟨rfl, Reader.double_reads d⟩) rfl) <|
    .cons (.optional Json.ofDouble r.topP ?_ inside
      (fun d _ => ⟨rfl, Reader.double_reads d⟩) rfl) <|
    .cons (.optional textsToJson r.stop ?_ inside
      (fun l _ => ⟨rfl, Reader.list_reads fun s _ => Reader.string_reads s⟩) rfl) <|
    .cons (.nonempty ToolDefinition.toJson r.tools ?_ inside
      (fun t member => ToolDefinition.reads_toJson (settled t member)) rfl) .nil
  all_goals
    simp [Members.find?_ofList, List.lookup_append, List.lookup_cons, Json.lookup_optional_of_ne]

end Request

namespace Response

/-- A response as it is read: its items are. -/
def Settled (r : Response) : Prop := ∀ i ∈ r.output, i.Settled

theorem reader_yields : reader.Yields Settled := by
  refine record_yields ?_ (show Settled empty from nofun)
  simp only [fields, List.forall_mem_cons]
  refine ⟨?_, ?_,
    RecordField.make_keeps (Reader.list_yields Item.reader_yields) fun _ _ _ items => items,
    ?_, ?_, ?_, nofun⟩
  all_goals exact RecordField.make_keeps_of_unseen fun _ _ settled => settled

theorem reads_toJson {r : Response} (settled : r.Settled) : reader.Reads r.toJson r := by
  refine record_reads (by simp [fields, RecordField.make]) (by simp [fields]) fun p inside => ?_
  refine
    .cons (.make ?_ inside (Reader.string_reads r.id)) <|
    .cons (.make ?_ inside (Reader.string_reads r.model)) <|
    .cons (.make ?_ inside
      (Reader.list_reads fun i member => Item.reads_toJson (settled i member))) <|
    .cons (.make ?_ inside r.status.reads_toJson) <|
    .cons (.make ?_ inside (Reader.string_reads r.session)) <|
    .cons (.make ?_ inside r.usage.reads_toJson) .nil
  all_goals simp [Members.find?_ofList, List.lookup_cons]

end Response

/-- Items, sessions, requests and responses are read back from what they are written as, whatever
value they have been read from. -/
theorem read_back :
    Reader.Faithful Item.reader Item.toJson ∧ Reader.Faithful Session.reader Session.toJson ∧
      Reader.Faithful Request.reader Request.toJson ∧
      Reader.Faithful Response.reader Response.toJson :=
  ⟨Item.reader_yields.faithful fun _ => Item.reads_toJson,
    Session.reader_yields.faithful fun _ => Session.reads_toJson,
    Request.reader_yields.faithful fun _ => Request.reads_toJson,
    Response.reader_yields.faithful fun _ => Response.reads_toJson⟩

/-- A session with an item of each kind: a message without a known role whose block carries more
than a text, a text without a role, a call, an answer as an array, and an item of another type. -/
theorem read_back_session :
    let written : Json := .obj [("id", .str "s1"), ("items", .arr [
      .obj [("type", .str "message"), ("role", .null), ("content", .arr [
        .obj [("text", .str "a"), ("type", .str "input_text"), ("cache", .bool true)]])],
      .obj [("content", .arr [.str "a"]), ("type", .str "text")],
      .obj [("type", .str "function_call"), ("content", .obj [("name", .str "f")])],
      .arr [.str "function_call_output", .obj [("call_id", .str "c1")]],
      .obj [("type", .str "reasoning"), ("summary", .null)]])]
    ∃ s, Reader.ofJson Session.reader written = .ok s ∧ s.items.length = 5 ∧
      Reader.ofJson Session.reader s.toJson = .ok s ∧
      Reader.reload Session.reader Session.toJson 3 s = .ok s := by
  intro written
  refine ⟨⟨"s1", [
    .message .user (.blocks [⟨"input_text", some (.str "a"), [("cache", .bool true)]⟩]),
    .text none (.other (.arr [.str "a"])), .call ⟨"f", .null, none⟩,
    .output ⟨some "c1", none, .null⟩, .unknown]⟩, rfl, rfl, ?_, ?_⟩
  · exact read_back.2.1.again written _ rfl
  · exact read_back.2.1.reloads written _ 3 rfl

end ChatRelay
