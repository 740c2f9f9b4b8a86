import ChatRelay.Proofs.Json.Records

/-!
# Which values are records

A record is read from an object or an array exactly if each of its fields suits what is there for
it: a field takes what it can read, and is left out only if the record can do without it. The order
of the members plays no part, and neither does what the other fields have read.
-/
namespace ChatRelay.Json

/-- What a value holds for a field of a record: an object under the name of the field, an array at
its place. -/
def held? (name : String) (place : Nat) : Json → Option Json
  | .obj ms => Members.find? name ms
  | .arr vs => vs[place]?
  | _ => none

/-- Objects, and arrays that are not too long, may be records of so many fields. -/
def FitsRecord (count : Nat) : Json → Prop
  | .obj _ => True
  | .arr vs => vs.length ≤ count
  | _ => False

namespace Reader

variable {α σ : Type}

theorem exists_map_iff {ε β γ : Type} {m : Except ε β} {f : β → γ} :
    (∃ c, m.map f = .ok c) ↔ ∃ b, m = .ok b := by
  cases m with
  | error fault => exact ⟨nofun, nofun⟩
  | ok b => exact ⟨fun _ => ⟨b, rfl⟩, fun _ => ⟨f b, rfl⟩⟩

theorem exists_json (p : Place) (v : Json) : ∃ w, json p (.value v) = .ok w := ⟨v, rfl⟩

theorem exists_string_iff {p : Place} {v : Json} :
    (∃ s, string p (.value v) = .ok s) ↔ v.kind = .string := by
  cases v with
  | str s => exact ⟨fun _ => rfl, fun _ => ⟨s, rfl⟩⟩
  | _ => exact ⟨fun ⟨_, reads⟩ => absurd reads mismatch_ne_ok, nofun⟩

theorem exists_optional_iff {r : Reader α} {p : Place} {v : Json} :
    (∃ o, optional r p (.value v) = .ok o) ↔ v.kind = .null ∨ ∃ x, r p (.value v) = .ok x := by
  cases v with
  | null => exact ⟨fun _ => .inl rfl, fun _ => ⟨none, rfl⟩⟩
  | _ => exact exists_map_iff.trans ⟨.inr, fun either => either.resolve_left nofun⟩

namespace RecordField

/-- The field can be read from a value in a state. -/
def Accepts (p : Place) (s : σ) (f : RecordField σ) (v : Json) : Prop :=
  ∃ s', f.read p (.value v) s = .ok s'

/-- The field suits what there is for it, which may be nothing. -/
def Suits (p : Place) (s : σ) (f : RecordField σ) : Option Json → Prop
  | some v => f.Accepts p s v
  | none => f.required = false

/-- Whether the field can be read does not depend on what has been read before. -/
def Steady (f : RecordField σ) : Prop := ∀ p s s' v, f.Accepts p s v → f.Accepts p s' v

@[simp] theorem make_name {name : String} {required : Bool} {r : Reader α} {put : σ → α → σ} :
    (make name required r put).name = name := rfl

@[simp] theorem make_accepts {name : String} {required : Bool} {r : Reader α} {put : σ → α → σ}
    {p : Place} {s : σ} {v : Json} :
    (make name required r put).Accepts p s v ↔ ∃ b, r p (.value v) = .ok b := exists_map_iff

@[simp] theorem make_steady {name : String} {required : Bool} {r : Reader α} {put : σ → α → σ} :
    (make name required r put).Steady := fun _ _ _ _ accepts =>
  make_accepts.2 (make_accepts.1 accepts)

@[simp] theorem make_suits {name : String} {r : Reader α} {put : σ → α → σ} {p : Place} {s : σ}
    {held : Option Json} :
    (make name false r put).Suits p s held ↔ ∀ v ∈ held, ∃ b, r p (.value v) = .ok b := by
  cases held with
  | none => exact ⟨fun _ => nofun, fun _ => rfl⟩
  | some v => exact make_accepts.trans ⟨fun accepts _ here => Option.some.inj here ▸ accepts,
      fun accepts => accepts v rfl⟩

@[simp] theorem make_suits_of_required {name : String} {r : Reader α} {put : σ → α → σ} {p : Place}
    {s : σ} {held : Option Json} :
    (make name true r put).Suits p s held ↔ ∃ v ∈ held, ∃ b, r p (.value v) = .ok b := by
  cases held with
  | none => exact ⟨nofun, nofun⟩
  | some v => exact make_accepts.trans ⟨fun accepts => ⟨v, rfl, accepts⟩,
      fun ⟨_, here, accepts⟩ => Option.some.inj here ▸ accepts⟩

/-- Fields of different names that are put into different parts of the state and can be read in any
state. -/
structure Independent (fields : List (RecordField σ)) : Prop where
  apart : fields.Pairwise fun f g => f.name ≠ g.name
  commutes : fields.Pairwise Commutes
  steady : ∀ f ∈ fields, f.Steady

variable {fields : List (RecordField σ)} {p : Place} {s : σ}

theorem Steady.suits {f : RecordField σ} (steady : f.Steady) {s' : σ} {held : Option Json}
    (suits : f.Suits p s held) : f.Suits p s' held := by
  cases held with
  | none => exact suits
  | some v => exact steady p s s' v suits

/-- Steady fields take their members one after another if each of them suits its own. -/
theorem exists_takesAll {ms : Members} {seen : List String} (steady : ∀ f ∈ fields, f.Steady)
    (suits : ∀ f ∈ fields, f.Suits p s (Members.find? f.name ms)) :
    ∃ x, TakesAll p ms seen fields s x := by
  induction fields generalizing s with
  | nil => exact ⟨s, .nil⟩
  | cons f fields ih =>
    have first : ∃ s', f.Takes p ms seen s s' := by
      have suit := suits f List.mem_cons_self
      cases found : Members.find? f.name ms with
      | none =>
        rw [found] at suit
        exact ⟨s, .absent found fun needed => absurd (suit.symm.trans needed) Bool.false_ne_true⟩
      | some v =>
        rw [found] at suit
        obtain ⟨s', read⟩ := suit
        exact ⟨s', .present found read⟩
    obtain ⟨s', takes⟩ := first
    have others : ∀ g ∈ fields, g.Suits p s' (Members.find? g.name ms) := fun g member =>
      (steady g (List.mem_cons_of_mem _ member)).suits (suits g (List.mem_cons_of_mem _ member))
    obtain ⟨x, rest⟩ := ih (fun g member => steady g (List.mem_cons_of_mem _ member)) others
    exact ⟨x, .cons takes rest⟩

theorem find?_name (apart : fields.Pairwise fun f g => f.name ≠ g.name) {f : RecordField σ}
    (member : f ∈ fields) : fields.find? (fun g => g.name = f.name) = some f := by
  induction fields with
  | nil => exact absurd member List.not_mem_nil
  | cons g rest ih =>
    obtain ⟨others, apart⟩ := List.pairwise_cons.1 apart
    rcases List.mem_cons.1 member with rfl | among
    · exact List.find?_cons_of_pos (decide_eq_true rfl)
    · rw [List.find?_cons_of_neg (by simpa using others f among)]
      exact ih apart among

/-- A field accepts its member: the state may be another by then, but that does not matter. -/
theorem accepts_of_readMembers {ms : Members} {seen : List String} {r : σ × List String}
    (apart : fields.Pairwise fun f g => f.name ≠ g.name) (steady : ∀ f ∈ fields, f.Steady)
    (reads : readMembers fields p s seen ms.documents = .ok r) {f : RecordField σ}
    (member : f ∈ fields) {v : Json} (held : (f.name, v) ∈ ms) : f.Accepts p s v := by
  induction ms generalizing s seen with
  | nil => exact absurd held List.not_mem_nil
  | cons m rest ih =>
    obtain ⟨key, w⟩ := m
    have named := find?_name apart member
    obtain ⟨name, isKey, step⟩ := readMembers_cons reads
    cases isKey
    rcases step with ⟨unnamed, reads⟩ | ⟨g, s', named', read, reads⟩
    · rcases List.mem_cons.1 held with same | later
      · cases same
        cases named.symm.trans unnamed
      · exact ih reads later
    · rcases List.mem_cons.1 held with same | later
      · cases same
        cases named.symm.trans named'
        exact ⟨s', read⟩
      · exact steady f member p s' s v (ih reads later)

/-- Only names of members are seen. -/
theorem mem_of_readMembers {ms : Members} {seen : List String} {r : σ × List String}
    (reads : readMembers fields p s seen ms.documents = .ok r) {name : String}
    (sees : name ∈ r.2) : name ∈ seen ∨ ∃ v, (name, v) ∈ ms := by
  induction ms generalizing s seen with
  | nil =>
    cases reads
    exact .inl sees
  | cons m rest ih =>
    obtain ⟨key, w⟩ := m
    obtain ⟨name', isKey, ⟨-, reads⟩ | ⟨-, s', -, -, reads⟩⟩ := readMembers_cons reads
    · exact (ih reads).imp id fun ⟨v, later⟩ => ⟨v, List.mem_cons_of_mem _ later⟩
    · cases isKey
      rcases ih reads with before | ⟨v, later⟩
      · rcases List.mem_cons.1 before with rfl | before
        · exact .inr ⟨w, List.mem_cons_self⟩
        · exact .inl before
      · exact .inr ⟨v, List.mem_cons_of_mem _ later⟩

/-- The elements past the last field are left. -/
theorem readElements_rest {expected : String} {index : Nat} {ds : List Document}
    {r : σ × List Document} (reads : readElements p expected none index s fields ds = .ok r) :
    r.2 = ds.drop fields.length := by
  induction fields generalizing s index ds with
  | nil =>
    cases reads
    rfl
  | cons f fields ih =>
    cases ds with
    | cons d ds =>
      obtain ⟨s', -, reads⟩ := bind_eq_ok.1 reads
      exact ih reads
    | nil =>
      obtain ⟨_, -, reads⟩ := bind_eq_ok.1 reads
      split at reads
      · cases reads
      · rw [ih reads, List.drop_nil, List.drop_nil]

/-- The fields that have an element, and those that have none, one after another. -/
theorem exists_readElements_iff {expected : String} {index : Nat} {vs : List Json}
    (steady : ∀ f ∈ fields, f.Steady) :
    (∃ r, readElements p expected none index s fields (vs.map .value) = .ok r) ↔
      ∀ f ∈ fields.zipIdx, f.1.Suits p s vs[f.2]? := by
  induction fields generalizing s index vs with
  | nil => exact ⟨fun _ => nofun, fun _ => ⟨_, rfl⟩⟩
  | cons f fields ih =>
    have steadyRest : ∀ g ∈ fields, g.Steady := fun g member =>
      steady g (List.mem_cons_of_mem _ member)
    rw [List.zipIdx_cons', List.forall_mem_cons, List.forall_mem_map]
    cases vs with
    | nil =>
      have skips : readElements p expected none index s (f :: fields) ([].map .value) =
          if f.required then .error (.invalidLength index expected)
          else readElements p expected none (index + 1) s fields ([].map .value) := rfl
      rw [skips]
      split
      · rename_i needed
        exact ⟨nofun, fun ⟨spared, _⟩ => absurd (needed.symm.trans spared) nofun⟩
      · rename_i spared
        rw [ih steadyRest]
        exact ⟨fun rest => ⟨Bool.eq_false_iff.2 spared, rest⟩, fun ⟨_, rest⟩ => rest⟩
    | cons v vs =>
      constructor
      · rintro ⟨r, reads⟩
        obtain ⟨s', read, reads⟩ := bind_eq_ok.1 reads
        refine ⟨⟨s', read⟩, fun g member => ?_⟩
        exact (steadyRest g.1 (List.fst_mem_of_mem_zipIdx member)).suits
          ((ih steadyRest).1 ⟨r, reads⟩ g member)
      · rintro ⟨⟨s', read⟩, rest⟩
        have later : ∃ r, readElements p expected none (index + 1) s' fields (vs.map .value) =
            .ok r := by
          rw [ih steadyRest]
          exact fun g member =>
            (steadyRest g.1 (List.fst_mem_of_mem_zipIdx member)).suits (rest g member)
        obtain ⟨r, reads⟩ := later
        exact ⟨r, bind_eq_ok.2 ⟨s', read, reads⟩⟩

end RecordField

section

variable {fields : List (RecordField σ)} {start : σ} {p : Place}

/-- A record is read from the members of an object exactly if they suit its fields. -/
theorem exists_recordOfMembers_iff {ms : Members}
    (independent : RecordField.Independent fields) (sorted : Members.Sorted ms) :
    (∃ x, recordOfMembers fields start p ms.documents none = .ok x) ↔
      ∀ f ∈ fields, f.Suits p start (Members.find? f.name ms) := by
  obtain ⟨apart, commutes, steady⟩ := independent
  constructor
  · -- what is there has been accepted; what is needed and not there would have been missed at the end
    rintro ⟨x, reads⟩ f member
    obtain ⟨⟨s, seen⟩, members, reads⟩ := bind_eq_ok.1 reads
    obtain ⟨_, -, reads⟩ := bind_eq_ok.1 reads
    split at reads
    · cases reads
    · rename_i complete
      cases found : Members.find? f.name ms with
      | some v =>
        exact RecordField.accepts_of_readMembers apart steady members member
          (Members.mem_of_find? found)
      | none =>
        have unseen : f.name ∉ seen := fun sees => by
          rcases RecordField.mem_of_readMembers members sees with before | ⟨v, held⟩
          · exact absurd before List.not_mem_nil
          · exact absurd (found.symm.trans (Members.find?_of_mem sorted held)) nofun
        have spared : f.required = false := by
          simpa [unseen] using List.find?_eq_none.1 complete f member
        exact spared
  · intro suits
    obtain ⟨x, takes⟩ := RecordField.exists_takesAll steady suits
    exact ⟨x, recordOfMembers_of_takesAll takes apart commutes sorted⟩

/-- A record is read from an array exactly if it is not too long and its elements suit the fields in
their places. -/
theorem exists_recordOfElements_iff {title : String} {vs : List Json}
    (steady : ∀ f ∈ fields, f.Steady) :
    (∃ x, recordOfElements title fields start p (vs.map .value) none = .ok x) ↔
      vs.length ≤ fields.length ∧ ∀ f ∈ fields.zipIdx, f.1.Suits p start vs[f.2]? := by
  let expected := title ++ " with " ++ elementCount fields.length
  have elements_iff : (∃ r, RecordField.readElements p expected none 0 start fields
      (vs.map .value) = .ok r) ↔ ∀ f ∈ fields.zipIdx, f.1.Suits p start vs[f.2]? :=
    RecordField.exists_readElements_iff steady
  rw [← elements_iff]
  constructor
  · rintro ⟨x, reads⟩
    obtain ⟨⟨s, rest⟩, elements, reads⟩ := bind_eq_ok.1 reads
    have left : rest = (vs.map Document.value).drop fields.length :=
      RecordField.readElements_rest elements
    simp only at reads
    split at reads
    · rename_i used
      rw [left, List.isEmpty_iff, List.drop_eq_nil_iff, List.length_map] at used
      exact ⟨used, _, elements⟩
    · cases reads
  · rintro ⟨short, ⟨s, rest⟩, elements⟩
    have left : rest = (vs.map Document.value).drop fields.length :=
      RecordField.readElements_rest elements
    have used : rest = [] := by
      rw [left, List.drop_eq_nil_iff, List.length_map]
      exact short
    subst used
    exact ⟨s, bind_eq_ok.2 ⟨(s, []), elements, rfl⟩⟩

variable {q : Place}

/-- A record is read from a value exactly if what it holds suits the fields. -/
theorem exists_record_iff {title : String} {v : Json} (enters : p.enter = .ok q)
    (independent : RecordField.Independent fields) (canonical : v.Canonical) :
    (∃ x, record title fields start p (.value v) = .ok x) ↔ v.FitsRecord fields.length ∧
      ∀ f ∈ fields.zipIdx, f.1.Suits q start (v.held? f.1.name f.2) := by
  cases v with
  | obj ms =>
    have enter : record title fields start p (.value (.obj ms)) =
        recordOfMembers fields start q (Members.documents ms) none := by
      simp only [record, expose_obj, enters, bind, Except.bind]
    rw [enter, exists_recordOfMembers_iff independent canonical.1]
    constructor
    · intro suits
      exact ⟨trivial, fun f member => suits f.1 (List.fst_mem_of_mem_zipIdx member)⟩
    · rintro ⟨-, suits⟩ f member
      obtain ⟨i, _, rfl⟩ := List.getElem_of_mem member
      exact suits (fields[i], i) (List.mem_zipIdx_iff_getElem?.2 (List.getElem?_eq_getElem _))
  | arr vs =>
    have enter : record title fields start p (.value (.arr vs)) =
        recordOfElements title fields start q (vs.map .value) none := by
      simp only [record, Document.expose, enters, bind, Except.bind]
    rw [enter, exists_recordOfElements_iff independent.steady]
    rfl
  | _ =>
    constructor
    · rintro ⟨x, reads⟩
      exact absurd reads mismatch_ne_ok
    · rintro ⟨fits, -⟩
      cases fits

end

end Reader
end ChatRelay.Json
