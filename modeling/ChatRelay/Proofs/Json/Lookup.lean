import ChatRelay.Json.Canonical
import Mathlib.Data.List.Induction

/-!
# Looking up members

What stands under a key of an object that is built from members: the last of them with that key.
Readers of built objects walk the same members from their end. Since the members of an object are in
order, what it holds under each key says what it is.
-/
namespace ChatRelay.Json

theorem lookup_cons_of_ne {key other : String} (different : key ≠ other) (v : Json)
    (ms : List (String × Json)) : ((other, v) :: ms).lookup key = ms.lookup key := by
  rw [List.lookup_cons, beq_false_of_ne different]

theorem Members.find?_eq_none {key : String} {ms : Members} (others : ∀ m ∈ ms, m.1 ≠ key) :
    Members.find? key ms = none := by
  induction ms with
  | nil => rfl
  | cons m rest ih =>
    obtain ⟨k, v⟩ := m
    rw [Members.find?, if_neg (others (k, v) List.mem_cons_self)]
    exact ih fun m member => others m (List.mem_cons_of_mem _ member)

/-- What stands under a key is a member. -/
theorem Members.mem_of_find? {key : String} {v : Json} {ms : Members}
    (found : Members.find? key ms = some v) : (key, v) ∈ ms := by
  induction ms with
  | nil => cases found
  | cons m rest ih =>
    obtain ⟨k, w⟩ := m
    rw [Members.find?] at found
    split at found
    · next same =>
      cases found
      exact same ▸ List.mem_cons_self
    · exact List.mem_cons_of_mem _ (ih found)

/-- In sorted members every key stands once, so each member is the one that is found. -/
theorem Members.find?_of_mem {ms : Members} (sorted : Sorted ms) {key : String} {v : Json}
    (member : (key, v) ∈ ms) : Members.find? key ms = some v := by
  induction ms with
  | nil => exact absurd member List.not_mem_nil
  | cons m rest ih =>
    obtain ⟨k, w⟩ := m
    obtain ⟨least, tail⟩ := List.pairwise_cons.1 sorted
    rcases List.mem_cons.1 member with same | later
    · cases same
      exact if_pos rfl
    · have before : k < key := least (key, v) later
      have different : k ≠ key := fun same => String.lt_irrefl key (same ▸ before)
      rw [Members.find?, if_neg different]
      exact ih tail later

theorem Members.Sorted.nodup {ms : Members} (sorted : Sorted ms) : ms.Nodup := by
  apply List.Pairwise.imp _ sorted
  rintro m n before rfl
  exact String.lt_irrefl _ before

/-- Objects that hold the same under every key are the same. -/
theorem Members.eq_of_find? {ms ns : Members} (sorted : Sorted ms) (sorted' : Sorted ns)
    (same : ∀ key, Members.find? key ms = Members.find? key ns) : ms = ns := by
  have mem_iff : ∀ m, m ∈ ms ↔ m ∈ ns := fun m =>
    ⟨fun member => mem_of_find? ((same m.1).symm.trans (find?_of_mem sorted member)),
      fun member => mem_of_find? ((same m.1).trans (find?_of_mem sorted' member))⟩
  apply ((List.perm_ext_iff_of_nodup sorted.nodup sorted'.nodup).2 mem_iff).eq_of_pairwise _
    sorted sorted'
  intro m n _ _ before after
  exact absurd (String.lt_trans before after) (String.lt_irrefl _)

theorem Members.find?_erase_self (key : String) (ms : Members) :
    Members.find? key (Members.erase key ms) = none := by
  induction ms with
  | nil => rfl
  | cons m rest ih =>
    obtain ⟨k, v⟩ := m
    by_cases same : k = key
    · simpa [Members.erase, same] using ih
    · simpa [Members.erase, same, Members.find?] using ih

/-- Members that are dropped leave what is under the other keys as it is. -/
theorem Members.find?_filter {key : String} {keeps : String × Json → Bool}
    (kept : ∀ v, keeps (key, v) = true) (ms : Members) :
    Members.find? key (ms.filter keeps) = Members.find? key ms := by
  induction ms with
  | nil => rfl
  | cons m rest ih =>
    obtain ⟨k, v⟩ := m
    by_cases same : k = key
    · subst same
      rw [List.filter_cons_of_pos (kept v), Members.find?, Members.find?, if_pos rfl, if_pos rfl]
    · rw [List.filter_cons, Members.find?, if_neg same, ← ih]
      split
      · rw [Members.find?, if_neg same]
      · rfl

theorem Members.find?_erase_of_ne {key other : String} (different : other ≠ key) (ms : Members) :
    Members.find? other (Members.erase key ms) = Members.find? other ms :=
  Members.find?_filter (fun _ => decide_eq_true different) ms

/-- What members written one after another hold under a key. -/
theorem Members.find?_ofList (key : String) (ms : List (String × Json)) :
    Members.find? key (Members.ofList ms) = ms.reverse.lookup key := by
  induction ms using List.reverseRecOn with
  | nil => rfl
  | append_singleton rest m ih =>
    obtain ⟨k, v⟩ := m
    have added : Members.ofList (rest ++ [(k, v)]) = Members.insert k v (Members.ofList rest) := by
      rw [Members.ofList, List.foldl_append]
      rfl
    rw [added, List.reverse_append, List.reverse_singleton, List.singleton_append]
    by_cases same : key = k
    · subst same
      rw [Members.find?_insert_self, List.lookup_cons_self]
    · rw [Members.find?_insert_of_ne same, ih, lookup_cons_of_ne same]

theorem get?_object (key : String) (ms : List (String × Json)) :
    (object ms).get? key = ms.reverse.lookup key := Members.find?_ofList key ms

/-- An optional member holds nothing under another key. -/
theorem lookup_optional_of_ne {key other : String} (different : key ≠ other) (v : Option Json) :
    (optional other v).reverse.lookup key = none := by
  cases v with
  | none => rfl
  | some v => exact lookup_cons_of_ne different v []

@[simp] theorem lookup_optional_self (key : String) (v : Option Json) :
    (optional key v).reverse.lookup key = v := by
  cases v with
  | none => rfl
  | some v => simp [optional]

/-- Where no key stands twice, it does not matter from which end members are looked up. -/
theorem lookup_reverse {ms : List (String × Json)} (nodup : (ms.map Prod.fst).Nodup)
    (key : String) : ms.reverse.lookup key = ms.lookup key := by
  induction ms with
  | nil => rfl
  | cons m rest ih =>
    obtain ⟨first, others⟩ := List.nodup_cons.1 nodup
    rw [List.reverse_cons, List.lookup_append, ih others]
    by_cases same : key = m.1
    · subst same
      have absent : rest.lookup m.1 = none := by
        apply List.lookup_eq_none_iff.2
        intro n member
        have other : m.1 ≠ n.1 := fun equal => first (equal ▸ List.mem_map_of_mem member)
        simpa using other
      rw [absent, List.lookup_cons_self, List.lookup_cons_self, Option.none_or]
    · rw [lookup_cons_of_ne same, lookup_cons_of_ne same, List.lookup_nil, Option.or_none]

/-- A value is an object that holds these members and no others. -/
structure Holds (v : Json) (ms : List (String × Json)) : Prop where
  isObject : ∃ members, v = .obj members
  under : ∀ key, v.get? key = ms.lookup key

/-- An object built from members with different keys holds just these. -/
theorem holds_object {ms : List (String × Json)} (nodup : (ms.map Prod.fst).Nodup) :
    (object ms).Holds ms where
  isObject := ⟨_, rfl⟩
  under key := by rw [get?_object, lookup_reverse nodup]

end ChatRelay.Json
