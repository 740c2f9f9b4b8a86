import ChatRelay.Proofs.Reply.Field
import ChatRelay.Reply.Counts

/-!
# What a reader navigates

A shape says which members a reader looks at, at every depth, and of which kinds it can use them. A
member that is null, or of a kind that the reader cannot use where it stands, may as well be
missing: reading a value and reading it without the member come to the same. This is shown for the
ways in which replies are read, and carries over to whatever is put together from them.
-/
namespace ChatRelay.Reply

open Json (Members)

/-- What a reader looks at. -/
inductive Shape where
  /-- A value that is taken as a whole if it is of one of the kinds. -/
  | scalar (kinds : List Json.Kind)
  /-- An array whose elements are looked at one by one. -/
  | list (element : Shape)
  /-- An object of which some members are looked at. -/
  | record (fields : List (String × Shape))

namespace Shape

/-- The kinds of the values that a reader can use. -/
def kinds : Shape → List Json.Kind
  | .scalar kinds => kinds
  | .list _ => [.array]
  | .record _ => [.object]

def text : Shape := .scalar [.string]

def flag : Shape := .scalar [.bool]

def count : Shape := .scalar [.number]

def any : Shape := .scalar [.bool, .number, .string, .array, .object]

end Shape

/-- The second value is the first one without one of the members that a reader looks at, which was
null or of a kind that the reader cannot use. -/
inductive Omits : Shape → Json → Json → Prop where
  | member {fields : List (String × Shape)} {key : String} {shape : Shape} {ms : Members} {v : Json}
      (reads : fields.lookup key = some shape) (found : Members.find? key ms = some v)
      (useless : v.kind ∉ shape.kinds) :
      Omits (.record fields) (.obj ms) (.obj (Members.erase key ms))
  | inside {fields : List (String × Shape)} {key : String} {shape : Shape} {ms : Members}
      {v v' : Json} (reads : fields.lookup key = some shape)
      (found : Members.find? key ms = some v) (omits : Omits shape v v') :
      Omits (.record fields) (.obj ms) (.obj (Members.insert key v' ms))
  | element {shape : Shape} {before after : List Json} {v v' : Json} (omits : Omits shape v v') :
      Omits (.list shape) (.arr (before ++ v :: after)) (.arr (before ++ v' :: after))

/-- A way of reading that does not notice the omission. -/
def Blind {α : Type} (shape : Shape) (read : Json → α) : Prop :=
  ∀ v v', Omits shape v v' → read v' = read v

theorem Omits.kind_mem {shape : Shape} {v v' : Json} (omits : Omits shape v v') :
    v.kind ∈ shape.kinds ∧ v'.kind = v.kind := by
  cases omits <;> exact ⟨List.mem_cons_self, rfl⟩

/-- What may become of a member that a reader looks at. -/
theorem Omits.get?_cases {fields : List (String × Shape)} {key : String} {shape : Shape}
    {v v' : Json} (omits : Omits (.record fields) v v') (reads : fields.lookup key = some shape) :
    v'.get? key = v.get? key ∨
      (∃ u, v.get? key = some u ∧ u.kind ∉ shape.kinds ∧ v'.get? key = none) ∨
      ∃ u u', v.get? key = some u ∧ v'.get? key = some u' ∧ Omits shape u u' := by
  cases omits with
  | @member _ other _ ms u reads' found useless =>
    by_cases same : key = other
    · subst same
      cases reads.symm.trans reads'
      exact .inr (.inl ⟨u, found, useless, Members.find?_erase_self key ms⟩)
    · exact .inl (Members.find?_erase_of_ne same ms)
  | @inside _ other _ ms u u' reads' found omits =>
    by_cases same : key = other
    · subst same
      cases reads.symm.trans reads'
      exact .inr (.inr ⟨u, u', found, Members.find?_insert_self key u' ms, omits⟩)
    · exact .inl (Members.find?_insert_of_ne same u' ms)

namespace Blind

variable {α : Type} {fields : List (String × Shape)} {key : String} {shape : Shape}

theorem scalar (kinds : List Json.Kind) (read : Json → α) : Blind (.scalar kinds) read :=
  fun _ _ omits => nomatch omits

/-- A member is read blindly if it is where it is of use, and not read where it is of none. -/
theorem bind_get? {read : Json → Option α} (reads : fields.lookup key = some shape)
    (unread : ∀ v, v.kind ∉ shape.kinds → read v = none) (blind : Blind shape read) :
    Blind (.record fields) fun v => (v.get? key).bind read := by
  intro v v' omits
  rcases omits.get?_cases reads with
    same | ⟨u, found, useless, gone⟩ | ⟨u, u', found, found', omits⟩
  · dsimp only
    rw [same]
  · simp only [found, gone, Option.bind_none, Option.bind_some, unread u useless]
  · simp only [found, found', Option.bind_some, blind u u' omits]

theorem scalar_member {kinds : List Json.Kind} {read : Json → Option α}
    (reads : fields.lookup key = some (.scalar kinds))
    (unread : ∀ v, v.kind ∉ kinds → read v = none) :
    Blind (.record fields) fun v => (v.get? key).bind read :=
  bind_get? reads unread (scalar kinds read)

end Blind

namespace Omits

variable {α : Type} {fields : List (String × Shape)} {v v' : Json}

theorem string?_eq (omits : Omits (.record fields) v v') (key : String)
    (reads : fields.lookup key = some .text) : string? v' key = string? v key := by
  rw [string?_eq_textAt?, string?_eq_textAt?]
  refine Blind.scalar_member reads (fun u useless => ?_) v v' omits
  cases u with
  | str s => exact absurd List.mem_cons_self useless
  | _ => rfl

theorem stringOrEmpty_eq (omits : Omits (.record fields) v v') (key : String)
    (reads : fields.lookup key = some .text) : stringOrEmpty v' key = stringOrEmpty v key :=
  congrArg (·.getD "") (omits.string?_eq key reads)

theorem field?_eq (omits : Omits (.record fields) v v') (key : String)
    (reads : fields.lookup key = some .any) : field? v' key = field? v key := by
  rw [field?_eq_bind, field?_eq_bind]
  refine Blind.scalar_member reads (fun u useless => ?_) v v' omits
  cases u with
  | null => rfl
  | _ => simp [Json.kind] at useless

/-- Objects read the same if their members do. -/
theorem map_object? (omits : Omits (.record fields) v v') (key : String)
    {inner : List (String × Shape)} (reads : fields.lookup key = some (.record inner))
    {read : Json → α} (blind : Blind (.record inner) read) :
    (object? v' key).map read = (object? v key).map read := by
  have same (v : Json) : (object? v key).map read =
      (v.get? key).bind fun u => if u.kind = .object then some (read u) else none := by
    simp only [object?_eq_bind, Option.map_bind, Function.comp_def,
      apply_ite (Option.map read), Option.map_some, Option.map_none]
  rw [same, same]
  refine Blind.bind_get? reads (fun u useless => ?_) (fun u u' within => ?_) v v' omits
  · rw [if_neg fun object => useless (List.mem_singleton.2 object)]
  · rw [within.kind_mem.2, blind u u' within]

def readAll (read : Json → α) : Json → Option (List α)
  | .arr elems => some (elems.map read)
  | _ => none

/-- Arrays read the same if their elements do. -/
theorem map_elements (omits : Omits (.record fields) v v') (key : String) {element : Shape}
    (reads : fields.lookup key = some (.list element)) {read : Json → α}
    (blind : Blind element read) : (elements v' key).map read = (elements v key).map read := by
  have same (v : Json) :
      (elements v key).map read = ((v.get? key).bind (readAll read)).getD [] := by
    rw [elements_eq_elementsAt, Json.elementsAt]
    cases v.get? key with
    | none => rfl
    | some u => cases u <;> rfl
  have blindly : Blind (.record fields) fun v => (v.get? key).bind (readAll read) := by
    refine Blind.bind_get? reads (fun u useless => ?_) fun u u' within => ?_
    · cases u with
      | arr elems => exact absurd List.mem_cons_self useless
      | _ => rfl
    · cases within with
      | element within => simp only [readAll, List.map_append, List.map_cons, blind _ _ within]
  rw [same, same]
  exact congrArg (·.getD []) (blindly v v' omits)

/-- Elements are read alike if each of them is. -/
theorem filterMap_elements (omits : Omits (.record fields) v v') (key : String) {element : Shape}
    (reads : fields.lookup key = some (.list element)) {read : Json → Option α}
    (blind : Blind element read) :
    (elements v' key).filterMap read = (elements v key).filterMap read := by
  have same := congrArg (List.filterMap id) (omits.map_elements key reads blind)
  simpa only [List.filterMap_map, Function.id_comp] using same

/-- The first elements of arrays read the same. -/
theorem bind_head?_elements (omits : Omits (.record fields) v v') (key : String) {element : Shape}
    (reads : fields.lookup key = some (.list element)) {read : Json → Option α}
    (blind : Blind element read) :
    (elements v' key).head?.bind read = (elements v key).head?.bind read := by
  have same := congrArg (·.head?.bind id) (omits.map_elements key reads blind)
  simpa only [List.head?_map, Option.bind_map, Function.id_comp] using same

theorem isEmpty_elements (omits : Omits (.record fields) v v') (key : String) {element : Shape}
    (reads : fields.lookup key = some (.list element)) :
    (elements v' key).isEmpty = (elements v key).isEmpty := by
  have unread : Blind element fun _ => () := fun _ _ _ => rfl
  have same := congrArg List.isEmpty (omits.map_elements key reads unread)
  simpa only [List.isEmpty_map] using same

end Omits

/-- A path of which a shape knows every key, down to a count. -/
inductive Leads : Shape → CountPath → Prop where
  | here : Leads .count []
  | under {fields : List (String × Shape)} {key : String} {shape : Shape} {path : CountPath}
      (reads : fields.lookup key = some shape) (leads : Leads shape path) :
      Leads (.record fields) (key :: path)

theorem read?_cons (v : Json) (key : String) (path : CountPath) :
    CountPaths.read? v (key :: path) = (v.get? key).bind (CountPaths.read? · path) :=
  Option.bind_assoc _ _ _

theorem Leads.unread {shape : Shape} {path : CountPath} (leads : Leads shape path) (v : Json)
    (useless : v.kind ∉ shape.kinds) : CountPaths.read? v path = none := by
  cases leads with
  | here =>
    cases v with
    | num n => exact absurd List.mem_cons_self useless
    | _ => rfl
  | under reads leads =>
    cases v with
    | obj ms => exact absurd List.mem_cons_self useless
    | _ => rfl

/-- A count is read alike if what is left out was of no use to it. -/
theorem Leads.blind {shape : Shape} {path : CountPath} (leads : Leads shape path) :
    Blind shape (CountPaths.read? · path) := by
  induction leads with
  | here => exact .scalar _ _
  | under reads leads ih =>
    simp only [read?_cons]
    exact .bind_get? reads leads.unread ih

/-- A shape that knows the paths to all counts. -/
structure Counts (shape : Shape) (paths : CountPaths) : Prop where
  prompt : Leads shape paths.prompt
  completion : Leads shape paths.completion
  cacheCreation : ∀ path ∈ paths.cacheCreation, Leads shape path
  cacheRead : ∀ path ∈ paths.cacheRead, Leads shape path

theorem Counts.usage_of_useless {fields : List (String × Shape)} {paths : CountPaths}
    (counts : Counts (.record fields) paths) {v : Json} (useless : v.kind ≠ .object) :
    paths.usage (some v) = .zero := by
  have unread {path : CountPath} (leads : Leads (.record fields) path) :
      CountPaths.read? v path = none :=
    leads.unread v fun object => useless (List.mem_singleton.1 object)
  have absent {path : Option CountPath} (leads : ∀ p ∈ path, Leads (.record fields) p) :
      path.bind (CountPaths.read? v) = none :=
    Option.bind_eq_none_iff.2 fun p given => unread (leads p given)
  simp only [CountPaths.usage, unread counts.prompt, unread counts.completion,
    absent counts.cacheCreation, absent counts.cacheRead]
  rfl

theorem Counts.blind {shape : Shape} {paths : CountPaths} (counts : Counts shape paths) :
    Blind shape fun v => paths.usage (some v) := by
  intro v v' omits
  have reported {path : Option CountPath} (leads : ∀ p ∈ path, Leads shape p) :
      path.bind (CountPaths.read? v') = path.bind (CountPaths.read? v) := by
    cases path with
    | none => rfl
    | some p => exact (leads p rfl).blind v v' omits
  simp only [CountPaths.usage, counts.prompt.blind v v' omits,
    counts.completion.blind v v' omits, reported counts.cacheCreation, reported counts.cacheRead]

theorem Omits.usage_eq {fields inner : List (String × Shape)} {v v' : Json}
    (omits : Omits (.record fields) v v') (key : String)
    (reads : fields.lookup key = some (.record inner)) {paths : CountPaths}
    (counts : Counts (.record inner) paths) :
    paths.usage (field? v' key) = paths.usage (field? v key) := by
  have same (v : Json) : paths.usage (field? v key) =
      ((object? v key).map fun u => paths.usage (some u)).getD .zero := by
    unfold object?
    cases field? v key with
    | none => rfl
    | some u =>
      by_cases object : u.kind = .object
      · simp [Option.filter, object]
      · simpa [Option.filter, object] using counts.usage_of_useless object
  rw [same, same, omits.map_object? key reads counts.blind]

end ChatRelay.Reply
