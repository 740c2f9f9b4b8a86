import ChatRelay.Json.Decode
import ChatRelay.Proofs.Json.Lookup

/-!
# Reading records back

What a reader makes of a value, where no text can end early or be nested too deep: `Reader.Reads`
says that it makes a certain thing of a certain value, `Reader.Yields` what holds of everything it
makes. The members of an object come in the order of their keys and not in the order in which a
record declares its fields. Since two fields of a record put what they read into different parts of
the state, the order does not matter: a record is read from an object if each field, in the declared
order, takes what stands under its name.
-/
namespace ChatRelay.Json

/-- The place is in a value and not in a text. -/
def Place.InValue (p : Place) : Prop := p.origin ≠ .text

theorem Place.inValue_ofValue : Place.ofValue.InValue := nofun

theorem Place.inValue_setAside (p : Place) : p.setAside.InValue := nofun

/-- In a value there is always a level left. -/
theorem Place.InValue.enter {p : Place} (inside : p.InValue) :
    ∃ q : Place, q.InValue ∧ p.enter = .ok q := by
  obtain ⟨origin, depth⟩ := p
  cases origin with
  | text => exact absurd rfl inside
  | value => exact ⟨⟨.value, depth - 1⟩, nofun, rfl⟩
  | setAside => exact ⟨⟨.setAside, depth - 1⟩, nofun, rfl⟩

theorem Place.InValue.of_enter {p q : Place} (inside : p.InValue) (enters : p.enter = .ok q) :
    q.InValue := by
  obtain ⟨q', inside', enters'⟩ := inside.enter
  cases enters'.symm.trans enters
  exact inside'

/-- The members of a value as those of a document. -/
def Members.documents (ms : Members) : List (Token String × Document) :=
  ms.map fun m => (.ok m.1, .value m.2)

theorem expose_obj (ms : Members) :
    (Document.value (.obj ms)).expose = .obj ms.documents none := rfl

@[simp] theorem Members.documents_cons (key : String) (v : Json) (ms : Members) :
    Members.documents ((key, v) :: ms) = (.ok key, .value v) :: Members.documents ms := rfl

namespace Reader

variable {α : Type}

/-- The reader makes `x` of the value, wherever in a value it stands. -/
def Reads (r : Reader α) (v : Json) (x : α) : Prop :=
  ∀ p : Place, p.InValue → r p (.value v) = .ok x

/-- Whatever the reader makes of a value is of a certain kind. -/
def Yields (r : Reader α) (good : α → Prop) : Prop :=
  ∀ (p : Place) (v : Json) (x : α), p.InValue → r p (.value v) = .ok x → good x

/-- Inversion of a step: it succeeds with what came before and with what follows. -/
theorem bind_eq_ok {ε β γ : Type} {m : Except ε β} {f : β → Except ε γ} {c : γ} :
    m >>= f = .ok c ↔ ∃ b, m = .ok b ∧ f b = .ok c := by
  cases m with
  | error fault => exact ⟨nofun, fun ⟨_, impossible, _⟩ => nomatch impossible⟩
  | ok b => exact ⟨fun done => ⟨b, rfl, done⟩, fun ⟨_, rfl, done⟩ => done⟩

theorem bind_eq_error {ε β γ : Type} {m : Except ε β} {f : β → Except ε γ} {fault : ε} :
    m >>= f = .error fault ↔ m = .error fault ∨ ∃ b, m = .ok b ∧ f b = .error fault := by
  cases m with
  | error cause =>
    exact ⟨fun same => .inl (congrArg _ (Except.error.inj same)), fun either =>
      either.elim (fun same => congrArg _ (Except.error.inj same)) fun ⟨_, impossible, _⟩ =>
        nomatch impossible⟩
  | ok b => exact ⟨fun fails => .inr ⟨b, rfl, fails⟩, fun either =>
      either.elim nofun fun ⟨_, rfl, fails⟩ => fails⟩

theorem map_eq_ok {ε β γ : Type} {m : Except ε β} {f : β → γ} {c : γ} :
    m.map f = .ok c ↔ ∃ b, m = .ok b ∧ f b = c := by
  cases m with
  | error fault => exact ⟨nofun, fun ⟨_, impossible, _⟩ => nomatch impossible⟩
  | ok b => exact ⟨fun done => ⟨b, rfl, Except.ok.inj done⟩, fun ⟨_, rfl, done⟩ => congrArg _ done⟩

theorem mapError_eq_ok {ε ε' β : Type} {m : Except ε β} {f : ε → ε'} {b : β} :
    m.mapError f = .ok b ↔ m = .ok b := by
  cases m with
  | error fault => exact ⟨nofun, nofun⟩
  | ok b' =>
    exact ⟨fun same => congrArg _ (Except.ok.inj same), fun same => congrArg _ (Except.ok.inj same)⟩

theorem mapError_eq_error {ε ε' β : Type} {m : Except ε β} {f : ε → ε'} {fault : ε'} :
    m.mapError f = .error fault ↔ ∃ cause, m = .error cause ∧ f cause = fault := by
  cases m with
  | error cause =>
    exact ⟨fun same => ⟨cause, rfl, Except.error.inj same⟩, fun ⟨_, rfl, same⟩ => congrArg _ same⟩
  | ok b => exact ⟨nofun, fun ⟨_, impossible, _⟩ => nomatch impossible⟩

theorem liftText_eq_ok {r : Except TextFault α} {a : α} : liftText r = .ok a ↔ r = .ok a :=
  mapError_eq_ok

theorem finish_eq_ok {ending : Option TextFault} {a b : α}
    (finished : Document.finish ending a = .ok b) : ending = none ∧ a = b := by
  cases ending with
  | none => exact ⟨rfl, Except.ok.inj finished⟩
  | some fault => cases finished

theorem json_eq_ok {p : Place} {d : Document} {v : Json} :
    json p d = .ok v ↔ d.toJson p.depth = .ok v := liftText_eq_ok

theorem mismatch_ne_ok {d : Document} {expected : String} {x : α} :
    mismatch d expected ≠ .ok x := by
  unfold mismatch
  cases found d <;> exact nofun

theorem json_reads (v : Json) : Reader.json.Reads v v := fun _ _ => rfl

theorem string_reads (s : String) : Reader.string.Reads (.str s) s := fun _ _ => rfl

theorem number_reads {expected : String} {convert : Number → Option α} {n : Number} {x : α}
    (fits : convert n = some x) : (Reader.number expected convert).Reads (.num n) x := by
  intro p _
  simp only [Reader.number, Document.expose, Token.ok, liftText, Except.mapError, bind, Except.bind,
    fits]
  rfl

theorem uint64_reads (n : UInt64) : Reader.uint64.Reads (.ofUInt64 n) n := by
  have natural : (WholeNumber.ofUInt64 n).val = n.toNat := rfl
  refine number_reads (show (WholeNumber.ofUInt64 n).toUInt64? = some n from ?_)
  rw [WholeNumber.toUInt64?, natural, if_pos (Int.natCast_nonneg _), Int.toNat_natCast,
    UInt64.ofNat_toNat]

theorem uint32_reads (n : UInt32) : Reader.uint32.Reads (.ofUInt32 n) n := by
  have natural : (WholeNumber.ofUInt32 n).val = n.toNat := rfl
  have small : (n.toNat : Int) < 4294967296 := by
    have := n.toNat_lt
    omega
  refine number_reads (show (WholeNumber.ofUInt32 n).toUInt32? = some n from ?_)
  rw [WholeNumber.toUInt32?, natural, if_pos ⟨Int.natCast_nonneg _, small⟩, Int.toNat_natCast,
    UInt32.ofNat_toNat]

theorem double_reads (d : Double) : Reader.double.Reads (.ofDouble d) d := fun _ _ => rfl

theorem optional_reads {r : Reader α} {v : Json} {x : α} (present : v.isNull = false)
    (reads : r.Reads v x) : (Reader.optional r).Reads v (some x) := by
  intro p inside
  cases v with
  | null => cases present
  | _ => simp only [Reader.optional, Document.expose, reads p inside]; rfl

theorem optional_yields {r : Reader α} {good : α → Prop}
    (yields : ∀ (p : Place) (v : Json) (x : α), p.InValue → v.isNull = false →
      r p (.value v) = .ok x → good x) :
    (Reader.optional r).Yields fun o => ∀ x ∈ o, good x := by
  intro p v o inside reads x here
  subst here
  cases v with
  | null => cases reads
  | _ =>
    obtain ⟨y, read, same⟩ := map_eq_ok.1 reads
    cases same
    exact yields p _ x inside rfl read

theorem mapM_eq_ok {β : Type} {f : β → Except DecodeFault α} {g : β → α} {bs : List β}
    (reads : ∀ b ∈ bs, f b = .ok (g b)) : bs.mapM f = .ok (bs.map g) := by
  induction bs with
  | nil => rfl
  | cons b rest ih =>
    have others := ih fun b' member => reads b' (List.mem_cons_of_mem _ member)
    rw [List.mapM_cons, reads b List.mem_cons_self, others]
    rfl

theorem mapM_reads {β : Type} {f : β → Except DecodeFault α} {g : α → β} {xs : List α}
    (reads : ∀ x ∈ xs, f (g x) = .ok x) : (xs.map g).mapM f = .ok xs := by
  have same : xs.mapM (f ∘ g) = .ok (xs.map id) := mapM_eq_ok reads
  rw [List.mapM_map, same, List.map_id]

/-- Each of the things read from a list comes from one of its elements. -/
theorem mapM_yields {β : Type} {f : β → Except DecodeFault α} {bs : List β} {xs : List α}
    (reads : bs.mapM f = .ok xs) : ∀ x ∈ xs, ∃ b ∈ bs, f b = .ok x := by
  induction bs generalizing xs with
  | nil =>
    cases reads
    exact nofun
  | cons b rest ih =>
    rw [List.mapM_cons] at reads
    obtain ⟨y, first, reads⟩ := bind_eq_ok.1 reads
    obtain ⟨ys, others, reads⟩ := bind_eq_ok.1 reads
    cases reads
    intro x member
    rcases List.mem_cons.1 member with here | there
    · exact ⟨b, List.mem_cons_self, here ▸ first⟩
    · obtain ⟨b', among, read⟩ := ih others x there
      exact ⟨b', List.mem_cons_of_mem _ among, read⟩

/-- If all is read, each is read. -/
theorem exists_of_mapM {β : Type} {f : β → Except DecodeFault α} {bs : List β} {xs : List α}
    (reads : bs.mapM f = .ok xs) : ∀ b ∈ bs, ∃ x, f b = .ok x := by
  induction bs generalizing xs with
  | nil => exact fun _ member => absurd member List.not_mem_nil
  | cons b rest ih =>
    rw [List.mapM_cons] at reads
    obtain ⟨y, first, reads⟩ := bind_eq_ok.1 reads
    obtain ⟨ys, others, -⟩ := bind_eq_ok.1 reads
    exact List.forall_mem_cons.2 ⟨⟨y, first⟩, ih others⟩

theorem list_reads {r : Reader α} {write : α → Json} {xs : List α}
    (reads : ∀ x ∈ xs, r.Reads (write x) x) : (Reader.list r).Reads (.arr (xs.map write)) xs := by
  intro p inside
  obtain ⟨q, inside', enters⟩ := inside.enter
  have elements : ((xs.map write).map Document.value).mapM (r q) = .ok xs := by
    rw [List.map_map]
    exact mapM_reads fun x member => reads x member q inside'
  simp only [Reader.list, Document.expose, enters, bind, Except.bind, elements]
  rfl

/-- A list is read from an array whose elements are read one by one. -/
theorem exists_of_list {r : Reader α} {p : Place} {d : Document} {xs : List α}
    (reads : Reader.list r p d = .ok xs) : ∃ elems q, d.expose = .arr elems none ∧
      p.enter = .ok q ∧ elems.mapM (r q) = .ok xs := by
  unfold Reader.list at reads
  split at reads
  · rename_i elems ending stands
    obtain ⟨q, enters, reads⟩ := bind_eq_ok.1 reads
    obtain ⟨ys, elements, finished⟩ := bind_eq_ok.1 reads
    obtain ⟨rfl, rfl⟩ := finish_eq_ok (liftText_eq_ok.1 finished)
    exact ⟨elems, q, stands, enters, elements⟩
  · exact absurd reads mismatch_ne_ok

theorem list_yields {r : Reader α} {good : α → Prop} (yields : r.Yields good) :
    (Reader.list r).Yields fun xs => ∀ x ∈ xs, good x := by
  intro p v xs inside reads x member
  obtain ⟨elems, q, stands, enters, elements⟩ := exists_of_list reads
  obtain ⟨d, among, read⟩ := mapM_yields elements x member
  cases v with
  | arr vs =>
    cases stands
    obtain ⟨w, -, rfl⟩ := List.mem_map.1 among
    exact yields q w x (inside.of_enter enters) read
  | _ => cases stands

namespace RecordField

variable {σ : Type}

/-- The two fields may be read in the other order. -/
def Commutes (f g : RecordField σ) : Prop :=
  ∀ (p : Place) (d e : Document) (s s' s'' : σ), f.read p d s = .ok s' → g.read p e s' = .ok s'' →
    ∃ s₁, g.read p e s = .ok s₁ ∧ f.read p d s₁ = .ok s''

@[simp] theorem make_read {β : Type} {name : String} {required : Bool} {r : Reader β}
    {put : σ → β → σ} (p : Place) (d : Document) (s : σ) :
    (make name required r put).read p d s = (r p d).map (put s) := rfl

/-- Fields that are put into different parts of the state. -/
@[simp] theorem make_commutes {β γ : Type} {name name' : String} {required required' : Bool}
    {r : Reader β} {r' : Reader γ} {put : σ → β → σ} {put' : σ → γ → σ}
    (apart : ∀ s b c, put' (put s b) c = put (put' s c) b) :
    (make name required r put).Commutes (make name' required' r' put') := by
  intro p d e s s' s'' first second
  obtain ⟨b, read, rfl⟩ := map_eq_ok.1 first
  obtain ⟨c, read', rfl⟩ := map_eq_ok.1 second
  refine ⟨put' s c, ?_, ?_⟩
  · rw [make_read, read']
    rfl
  · rw [apart, make_read, read]
    rfl

/-- What the field takes from the members of an object. A field that the record needs may be
missing only if it has been seen before. -/
inductive Takes (p : Place) (ms : Members) (seen : List String) (f : RecordField σ) :
    σ → σ → Prop where
  | present {v : Json} {s s' : σ} (found : Members.find? f.name ms = some v)
      (read : f.read p (.value v) s = .ok s') : Takes p ms seen f s s'
  | absent {s : σ} (missing : Members.find? f.name ms = none)
      (spared : f.required = true → f.name ∈ seen) : Takes p ms seen f s s

/-- What the fields take from the members of an object, one after another. -/
inductive TakesAll (p : Place) (ms : Members) (seen : List String) :
    List (RecordField σ) → σ → σ → Prop where
  | nil {s : σ} : TakesAll p ms seen [] s s
  | cons {f : RecordField σ} {fields : List (RecordField σ)} {s s' s'' : σ}
      (first : f.Takes p ms seen s s') (rest : TakesAll p ms seen fields s' s'') :
      TakesAll p ms seen (f :: fields) s s''

theorem Takes.make {β : Type} {p : Place} {ms : Members} {seen : List String} {name : String}
    {required : Bool} {r : Reader β} {put : σ → β → σ} {v : Json} {b : β} {s : σ}
    (found : Members.find? name ms = some v) (inside : p.InValue) (reads : r.Reads v b) :
    (RecordField.make name required r put).Takes p ms seen s (put s b) := by
  refine .present found ?_
  rw [make_read, reads p inside]
  rfl

/-- A field that is written only if it is there, read from a state in which it is not. -/
theorem Takes.optional {β : Type} {p : Place} {ms : Members} {seen : List String} {name : String}
    {r : Reader β} {put : σ → Option β → σ} {s : σ} (write : β → Json) (o : Option β)
    (found : Members.find? name ms = o.map write) (inside : p.InValue)
    (reads : ∀ b ∈ o, (write b).isNull = false ∧ r.Reads (write b) b) (unset : put s none = s) :
    (RecordField.make name false (Reader.optional r) put).Takes p ms seen s (put s o) := by
  cases o with
  | none =>
    rw [unset]
    exact .absent found nofun
  | some b =>
    obtain ⟨present, read⟩ := reads b rfl
    exact Takes.make found inside (optional_reads present read)

section

variable {p : Place} {ms : Members} {seen : List String} {fields : List (RecordField σ)} {s x : σ}

/-- A member that is no field among these, or has been read, may go. -/
theorem TakesAll.of_cons {key : String} {v : Json} {seen' : List String}
    (takes : TakesAll p ((key, v) :: ms) seen fields s x) (others : ∀ f ∈ fields, key ≠ f.name)
    (more : seen ⊆ seen') : TakesAll p ms seen' fields s x := by
  induction takes with
  | nil => exact .nil
  | @cons f fields _ _ _ first _ ih =>
    have other : key ≠ f.name := others f List.mem_cons_self
    refine .cons ?_ (ih fun g member => others g (List.mem_cons_of_mem _ member))
    cases first with
    | present found read =>
      rw [Members.find?, if_neg other] at found
      exact .present found read
    | absent missing spared =>
      rw [Members.find?, if_neg other] at missing
      exact .absent missing fun needed => more (spared needed)

/-- The field that the first member belongs to may be read first. -/
theorem TakesAll.read_first {f : RecordField σ} {v : Json}
    (takes : TakesAll p ((f.name, v) :: ms) seen fields s x) (member : f ∈ fields)
    (apart : fields.Pairwise fun f g => f.name ≠ g.name) (commutes : fields.Pairwise Commutes)
    (once : Members.find? f.name ms = none) :
    ∃ s', f.read p (.value v) s = .ok s' ∧ TakesAll p ms (f.name :: seen) fields s' x := by
  induction takes with
  | nil => exact absurd member List.not_mem_nil
  | @cons g fields s s' x first rest ih =>
    obtain ⟨others, apart⟩ := List.pairwise_cons.1 apart
    obtain ⟨commute, commutes⟩ := List.pairwise_cons.1 commutes
    have more : seen ⊆ f.name :: seen := List.subset_cons_self _ _
    rcases List.mem_cons.1 member with rfl | among
    · -- its own turn: the member is taken, and from then on the name counts as seen
      cases first with
      | present found read =>
        rw [Members.find?, if_pos rfl] at found
        cases found
        exact ⟨s', read, .cons (.absent once fun _ => List.mem_cons_self)
          (rest.of_cons others more)⟩
      | absent missing _ => simp [Members.find?] at missing
    · -- a later field: it is brought to the front of the others, then before this one
      obtain ⟨s₁, read, takes⟩ := ih among apart commutes
      have other : f.name ≠ g.name := fun same => others f among same.symm
      cases first with
      | present found read' =>
        rw [Members.find?, if_neg other] at found
        obtain ⟨s₂, first, second⟩ := commute f among p _ _ _ _ _ read' read
        exact ⟨s₂, first, .cons (.present found second) takes⟩
      | absent missing spared =>
        rw [Members.find?, if_neg other] at missing
        exact ⟨s₁, read, .cons (.absent missing fun needed => more (spared needed)) takes⟩

/-- Where there are no members left, the state is complete. -/
theorem TakesAll.of_nil (takes : TakesAll p [] seen fields s x) :
    s = x ∧ ∀ f ∈ fields, f.required = true → f.name ∈ seen := by
  induction takes with
  | nil => exact ⟨rfl, nofun⟩
  | cons first _ ih =>
    cases first with
    | present found _ => cases found
    | absent _ spared =>
      refine ⟨ih.1, fun f member => ?_⟩
      rcases List.mem_cons.1 member with rfl | among
      · exact spared
      · exact ih.2 f among

/-- The members in their order come to what the fields take in theirs. -/
theorem readMembers_of_takesAll (takes : TakesAll p ms seen fields s x)
    (apart : fields.Pairwise fun f g => f.name ≠ g.name) (commutes : fields.Pairwise Commutes)
    (sorted : Members.Sorted ms) (fresh : ∀ m ∈ ms, m.1 ∉ seen) :
    ∃ seen', readMembers fields p s seen ms.documents = .ok (x, seen') ∧
      ∀ f ∈ fields, f.required = true → f.name ∈ seen' := by
  induction ms generalizing seen s with
  | nil =>
    obtain ⟨rfl, complete⟩ := takes.of_nil
    exact ⟨seen, rfl, complete⟩
  | cons m rest ih =>
    obtain ⟨key, v⟩ := m
    obtain ⟨least, tail⟩ := List.pairwise_cons.1 sorted
    have distinct : ∀ m ∈ rest, m.1 ≠ key := fun m member same =>
      String.lt_irrefl key (same ▸ least m member)
    have fresh' : ∀ m ∈ rest, m.1 ∉ seen := fun m member => fresh m (List.mem_cons_of_mem _ member)
    simp only [Members.documents_cons, readMembers, Token.ok, liftText, Except.mapError, bind,
      Except.bind]
    -- a member without a field is passed by; the field of any other is the one that reads first
    cases named : fields.find? fun f => f.name = key with
    | none =>
      have others : ∀ f ∈ fields, key ≠ f.name := fun f member same => by
        have unnamed := List.find?_eq_none.1 named f member
        exact unnamed (by simpa using same.symm)
      exact ih (takes.of_cons others (List.Subset.refl _)) tail fresh'
    | some f =>
      obtain rfl : f.name = key := by simpa using List.find?_some named
      have once : Members.find? f.name rest = none := Members.find?_eq_none distinct
      obtain ⟨s', read, takes'⟩ :=
        takes.read_first (List.mem_of_find?_eq_some named) apart commutes once
      have unread : f.name ∉ seen := fresh (f.name, v) List.mem_cons_self
      simp only [if_neg unread, read]
      refine ih takes' tail fun m member again => ?_
      rcases List.mem_cons.1 again with same | before
      · exact distinct m member same
      · exact fresh' m member before

end

/-- A list that is written only if it is not empty, read from a state in which it is. -/
theorem Takes.nonempty {β : Type} {p : Place} {ms : Members} {seen : List String} {name : String}
    {r : Reader β} {put : σ → List β → σ} {s : σ} (write : β → Json) (xs : List β)
    (found : Members.find? name ms =
      if xs.isEmpty then none else some (.arr (xs.map write))) (inside : p.InValue)
    (reads : ∀ x ∈ xs, r.Reads (write x) x) (unset : put s [] = s) :
    (RecordField.make name false (Reader.list r) put).Takes p ms seen s (put s xs) := by
  cases xs with
  | nil =>
    rw [unset]
    exact .absent found nofun
  | cons x rest => exact Takes.make found inside (list_reads reads)

end RecordField

variable {σ : Type} {fields : List (RecordField σ)} {start x : σ} {p : Place} {ms : Members}

/-- A record from the members of an object, of which every field takes its own. -/
theorem recordOfMembers_of_takesAll (takes : RecordField.TakesAll p ms [] fields start x)
    (apart : fields.Pairwise fun f g => f.name ≠ g.name)
    (commutes : fields.Pairwise RecordField.Commutes) (sorted : Members.Sorted ms) :
    recordOfMembers fields start p ms.documents none = .ok x := by
  obtain ⟨seen, reads, complete⟩ :=
    RecordField.readMembers_of_takesAll takes apart commutes sorted fun _ _ => List.not_mem_nil
  have noneMissing : (fields.find? fun f => f.required && !seen.contains f.name) = none := by
    refine List.find?_eq_none.2 fun f member missing => ?_
    simp only [Bool.and_eq_true, Bool.not_eq_true', List.contains_eq_mem, decide_eq_false_iff_not]
      at missing
    exact missing.2 (complete f member missing.1)
  simp only [recordOfMembers, reads, bind, Except.bind, Document.finish, liftText, Except.mapError,
    noneMissing]
  rfl

/-- A record from the object that it was written as. -/
theorem record_reads {title : String} {written : List (String × Json)}
    (apart : fields.Pairwise fun f g => f.name ≠ g.name)
    (commutes : fields.Pairwise RecordField.Commutes)
    (takes : ∀ p : Place, p.InValue →
      RecordField.TakesAll p (Members.ofList written) [] fields start x) :
    (record title fields start).Reads (object written) x := by
  intro p inside
  obtain ⟨q, inside', enters⟩ := inside.enter
  simp only [record, object, Document.expose, enters, bind, Except.bind]
  exact recordOfMembers_of_takesAll (takes q inside') apart commutes (Members.sorted_ofList written)

namespace RecordField

/-- Reading the field from certain documents for its name keeps a state good. -/
def KeepsOn (docs : String → Document → Prop) (p : Place) (good : σ → Prop) (f : RecordField σ) :
    Prop :=
  ∀ (d : Document) (s s' : σ), docs f.name d → good s → f.read p d s = .ok s' → good s'

/-- Reading the field keeps a state good. -/
def Keeps (good : σ → Prop) (f : RecordField σ) : Prop :=
  ∀ (p : Place) (v : Json) (s s' : σ), p.InValue → good s → f.read p (.value v) s = .ok s' → good s'

theorem Keeps.on {good : σ → Prop} {f : RecordField σ} (keeps : f.Keeps good) (inside : p.InValue) :
    f.KeepsOn (fun _ d => ∃ v, d = .value v) p good := by
  rintro _ s s' ⟨v, rfl⟩ was reads
  exact keeps p v s s' inside was reads

theorem make_keepsOn {β : Type} {docs : String → Document → Prop} {good : σ → Prop}
    {usable : β → Prop}
    {name : String} {required : Bool} {r : Reader β} {put : σ → β → σ}
    (yields : ∀ d b, docs name d → r p d = .ok b → usable b)
    (keeps : ∀ s b, good s → usable b → good (put s b)) :
    (make name required r put).KeepsOn docs p good := by
  intro d s s' doc was reads
  obtain ⟨b, read, rfl⟩ := map_eq_ok.1 reads
  exact keeps s b was (yields d b doc read)

theorem make_keeps {β : Type} {good : σ → Prop} {usable : β → Prop} {name : String}
    {required : Bool} {r : Reader β} {put : σ → β → σ} (yields : r.Yields usable)
    (keeps : ∀ s b, good s → usable b → good (put s b)) :
    (make name required r put).Keeps good := by
  intro p v s s' inside was reads
  obtain ⟨b, read, rfl⟩ := map_eq_ok.1 reads
  exact keeps s b was (yields p v b inside read)

/-- A field that the property does not look at. -/
theorem make_keeps_of_unseen {β : Type} {good : σ → Prop} {name : String} {required : Bool}
    {r : Reader β} {put : σ → β → σ} (keeps : ∀ s b, good s → good (put s b)) :
    (make name required r put).Keeps good := by
  have anything : r.Yields fun _ => True := fun _ _ _ _ _ => trivial
  exact make_keeps anything fun s b was _ => keeps s b was

variable {good : σ → Prop} {docs : String → Document → Prop}

/-- A member is either no field and passed by, or read as the field of its name. -/
theorem readMembers_cons {key : Token String} {d : Document} {rest : List (Token String × Document)}
    {s : σ} {seen : List String} {r : σ × List String}
    (reads : readMembers fields p s seen ((key, d) :: rest) = .ok r) :
    ∃ name, liftText key.read = .ok name ∧
      ((fields.find? (fun f => f.name = name) = none ∧
          readMembers fields p s seen rest = .ok r) ∨
        ∃ f s', fields.find? (fun f => f.name = name) = some f ∧ f.read p d s = .ok s' ∧
          readMembers fields p s' (name :: seen) rest = .ok r) := by
  obtain ⟨name, isName, reads⟩ := bind_eq_ok.1 reads
  refine ⟨name, isName, ?_⟩
  split at reads
  · rename_i unnamed
    split at reads
    · cases reads
    · exact .inl ⟨unnamed, reads⟩
  · rename_i f named
    split at reads
    · cases reads
    · obtain ⟨s', read, others⟩ := bind_eq_ok.1 reads
      exact .inr ⟨f, s', named, read, others⟩

/-- A state stays good over all members, in whatever order they stand, if each document fits the
field of its name. -/
theorem readMembers_keeps {members : List (Token String × Document)}
    (keeps : ∀ f ∈ fields, f.KeepsOn docs p good)
    (fits : ∀ m ∈ members, ∀ name, m.1.read = .ok name → docs name m.2) {s : σ}
    {seen : List String} {r : σ × List String} (was : good s)
    (reads : readMembers fields p s seen members = .ok r) : good r.1 := by
  induction members generalizing s seen with
  | nil =>
    cases reads
    exact was
  | cons m rest ih =>
    obtain ⟨key, d⟩ := m
    have others : ∀ m ∈ rest, ∀ name, m.1.read = .ok name → docs name m.2 := fun m member =>
      fits m (List.mem_cons_of_mem _ member)
    obtain ⟨name, isName, ⟨-, reads⟩ | ⟨f, s', named, read, reads⟩⟩ := readMembers_cons reads
    · exact ih others was reads
    · have here : docs name d := fits (key, d) List.mem_cons_self name (liftText_eq_ok.1 isName)
      obtain rfl : f.name = name := by simpa using List.find?_some named
      exact ih others (keeps f (List.mem_of_find?_eq_some named) d s s' here was read) reads

/-- A state stays good over all elements if each fits the field in its place. -/
theorem readElements_keeps {elems : List Document} {ending : Option TextFault} {expected : String}
    (keeps : ∀ f ∈ fields, f.KeepsOn docs p good)
    (fits : ∀ x ∈ fields.zip elems, docs x.1.name x.2) {s : σ}
    {index : Nat} {r : σ × List Document} (was : good s)
    (reads : readElements p expected ending index s fields elems = .ok r) : good r.1 := by
  induction fields generalizing s index elems with
  | nil =>
    cases reads
    exact was
  | cons f fields ih =>
    have others : ∀ g ∈ fields, g.KeepsOn docs p good := fun g member =>
      keeps g (List.mem_cons_of_mem _ member)
    cases elems with
    | cons d elems =>
      obtain ⟨s', read, reads⟩ := bind_eq_ok.1 reads
      have here : docs f.name d := fits (f, d) List.mem_cons_self
      have kept : good s' := keeps f List.mem_cons_self d s s' here was read
      exact ih others (fun x member => fits x (List.mem_cons_of_mem _ member)) kept reads
    | nil =>
      obtain ⟨_, _, reads⟩ := bind_eq_ok.1 reads
      split at reads
      · cases reads
      · exact ih others (by simp) was reads

end RecordField

theorem recordOfMembers_keeps {good : σ → Prop} {docs : String → Document → Prop}
    {members : List (Token String × Document)} (keeps : ∀ f ∈ fields, f.KeepsOn docs p good)
    (fits : ∀ m ∈ members, ∀ name, m.1.read = .ok name → docs name m.2) (was : good start)
    {ending : Option TextFault}
    (reads : recordOfMembers fields start p members ending = .ok x) : good x := by
  obtain ⟨⟨s, seen⟩, members, reads⟩ := bind_eq_ok.1 reads
  obtain ⟨_, _, reads⟩ := bind_eq_ok.1 reads
  split at reads
  · cases reads
  · cases reads
    exact RecordField.readMembers_keeps keeps fits was members

theorem recordOfElements_keeps {good : σ → Prop} {docs : String → Document → Prop}
    {elems : List Document} (keeps : ∀ f ∈ fields, f.KeepsOn docs p good)
    (fits : ∀ x ∈ fields.zip elems, docs x.1.name x.2) (was : good start) {title : String}
    {ending : Option TextFault}
    (reads : recordOfElements title fields start p elems ending = .ok x) : good x := by
  obtain ⟨⟨s, surplus⟩, elements, reads⟩ := bind_eq_ok.1 reads
  simp only at reads
  split at reads
  · cases ending with
    | none =>
      cases reads
      exact RecordField.readElements_keeps keeps fits was elements
    | some fault => cases reads
  · cases reads

/-- What holds of the start and is kept by every field holds of whatever record is read. -/
theorem record_yields {good : σ → Prop} {title : String} (keeps : ∀ f ∈ fields, f.Keeps good)
    (was : good start) : (record title fields start).Yields good := by
  intro p v x inside reads
  cases v with
  | arr elems =>
    obtain ⟨q, enters, reads⟩ := bind_eq_ok.1 reads
    have ofValue : ∀ d ∈ elems.map Document.value, ∃ v, d = .value v :=
      List.forall_mem_map.2 fun v _ => ⟨v, rfl⟩
    exact recordOfElements_keeps (fun f member => (keeps f member).on (inside.of_enter enters))
      (fun x member => ofValue x.2 (List.of_mem_zip member).2) was reads
  | obj members =>
    obtain ⟨q, enters, reads⟩ := bind_eq_ok.1 reads
    have ofValue : ∀ m ∈ Members.documents members, ∃ v, m.2 = .value v :=
      List.forall_mem_map.2 fun m _ => ⟨m.2, rfl⟩
    exact recordOfMembers_keeps (fun f member => (keeps f member).on (inside.of_enter enters))
      (fun m member _ _ => ofValue m member) was reads
  | _ => exact absurd reads mismatch_ne_ok

/-- What comes of writing and reading again, a number of times. -/
def reload (r : Reader α) (write : α → Json) : Nat → α → Except DecodeFault α
  | 0, x => .ok x
  | n + 1, x => do reload r write n (← ofJson r (write x))

/-- Whatever is read from a value is written as a value from which the same is read: writing what
has been read is done once and for all, and reloading changes nothing. -/
structure Faithful (r : Reader α) (write : α → Json) : Prop where
  again : ∀ v x, ofJson r v = .ok x → ofJson r (write x) = .ok x
  idempotent : ∀ v w, (ofJson r v).map write = .ok w → (ofJson r w).map write = .ok w
  reloads : ∀ v x n, ofJson r v = .ok x → reload r write n x = .ok x

theorem reload_eq_self {r : Reader α} {write : α → Json} {x : α}
    (again : ofJson r (write x) = .ok x) (n : Nat) : reload r write n x = .ok x := by
  induction n with
  | zero => rfl
  | succ n ih =>
    rw [reload, again]
    exact ih

/-- A reader is faithful if what it yields is read back. -/
theorem Yields.faithful {r : Reader α} {write : α → Json} {good : α → Prop} (yields : r.Yields good)
    (reads : ∀ x, good x → r.Reads (write x) x) : Faithful r write := by
  have again : ∀ v x, ofJson r v = .ok x → ofJson r (write x) = .ok x := fun v x read =>
    reads x (yields .ofValue v x Place.inValue_ofValue read) .ofValue Place.inValue_ofValue
  refine ⟨again, fun v w written => ?_, fun v x n read => reload_eq_self (again v x read) n⟩
  obtain ⟨x, read, rfl⟩ := map_eq_ok.1 written
  rw [again v x read]
  rfl

end Reader
end ChatRelay.Json
