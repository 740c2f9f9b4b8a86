import ChatRelay.Json.Basic

/-!
# Canonical values

Looking a key up after a member has been added, and the order that adding keeps: objects built from
any members have each key once and in increasing order.
-/
namespace ChatRelay.Json

namespace Members

@[simp] theorem find?_insert_self (key : String) (v : Json) (ms : Members) :
    find? key (insert key v ms) = some v := by
  induction ms with
  | nil => simp [insert, find?]
  | cons m rest ih =>
    obtain ⟨k, w⟩ := m
    simp only [insert]
    split
    · simp [find?]
    · split
      · simp [find?]
      · rename_i different
        rw [find?, if_neg fun same => different same.symm, ih]

/-- Adding a member does not change what stands under other keys. -/
theorem find?_insert_of_ne {key other : String} (different : other ≠ key) (v : Json)
    (ms : Members) : find? other (insert key v ms) = find? other ms := by
  have apart : ¬ key = other := fun same => different same.symm
  induction ms with
  | nil => simp [insert, find?, apart]
  | cons m rest ih =>
    obtain ⟨k, w⟩ := m
    simp only [insert]
    split
    · rw [find?, if_neg apart]
    · split
      · rename_i same
        subst same
        rw [find?, find?, if_neg apart, if_neg apart]
      · rw [find?, find?, ih]

theorem mem_insert {m : String × Json} {key : String} {v : Json} {ms : Members}
    (member : m ∈ insert key v ms) : m = (key, v) ∨ m ∈ ms := by
  induction ms with
  | nil => simpa [insert] using member
  | cons n rest ih =>
    obtain ⟨k, w⟩ := n
    simp only [insert] at member
    split at member
    · simpa using member
    · split at member
      · rcases List.mem_cons.1 member with here | there
        · exact .inl here
        · exact .inr (List.mem_cons_of_mem _ there)
      · rcases List.mem_cons.1 member with here | there
        · exact .inr (here ▸ List.mem_cons_self)
        · exact (ih there).imp id (List.mem_cons_of_mem _)

theorem sorted_insert {ms : Members} (sorted : Sorted ms) (key : String) (v : Json) :
    Sorted (insert key v ms) := by
  unfold Sorted at sorted ⊢
  induction ms with
  | nil => simp [insert]
  | cons n rest ih =>
    obtain ⟨k, w⟩ := n
    obtain ⟨least, tail⟩ := List.pairwise_cons.1 sorted
    simp only [insert]
    split
    · rename_i before
      refine List.pairwise_cons.2 ⟨fun m member => ?_, sorted⟩
      rcases List.mem_cons.1 member with here | there
      · exact here ▸ before
      · exact String.lt_trans before (least m there)
    · split
      · rename_i same
        subst same
        exact List.pairwise_cons.2 ⟨least, tail⟩
      · rename_i notBefore different
        have after : k < key := by
          rcases String.le_total k key with le | le
          · exact String.not_le.1 fun ge => different (String.le_antisymm ge le)
          · exact absurd (String.le_antisymm le (String.not_lt.1 notBefore)) different
        refine List.pairwise_cons.2 ⟨fun m member => ?_, ih tail⟩
        rcases mem_insert member with here | there
        · exact here ▸ after
        · exact least m there

/-- Members written in any order become members in the order of their keys. -/
theorem sorted_ofList (ms : List (String × Json)) : Sorted (ofList ms) := by
  have grow : ∀ (rest : List (String × Json)) (acc : Members), Sorted acc →
      Sorted (rest.foldl (fun acc m => insert m.1 m.2 acc) acc) := by
    intro rest
    induction rest with
    | nil => exact fun _ sorted => sorted
    | cons m rest ih => exact fun acc sorted => ih _ (sorted_insert sorted m.1 m.2)
  exact grow ms [] List.Pairwise.nil

theorem insert_of_lt {key : String} {ms : Members} (last : ∀ m ∈ ms, m.1 < key) (v : Json) :
    insert key v ms = ms ++ [(key, v)] := by
  induction ms with
  | nil => rfl
  | cons m rest ih =>
    obtain ⟨k, w⟩ := m
    have after : k < key := last (k, w) List.mem_cons_self
    have notBefore : ¬ key < k := fun before => String.lt_irrefl k (String.lt_trans after before)
    have different : key ≠ k := fun same => String.lt_irrefl key (same ▸ after)
    have others := ih fun m member => last m (List.mem_cons_of_mem _ member)
    rw [insert, if_neg notBefore, if_neg different, others]
    rfl

/-- Members in order stay as they are. -/
theorem ofList_of_sorted {ms : Members} (sorted : Sorted ms) : ofList ms = ms := by
  have grow : ∀ (rest acc : Members), Sorted (acc ++ rest) →
      rest.foldl (fun acc m => insert m.1 m.2 acc) acc = acc ++ rest := by
    intro rest
    induction rest with
    | nil => exact fun acc _ => (List.append_nil acc).symm
    | cons m rest ih =>
      intro acc sorted
      have last : ∀ n ∈ acc, n.1 < m.1 := fun n member =>
        (List.pairwise_append.1 sorted).2.2 n member m List.mem_cons_self
      rw [List.foldl_cons, insert_of_lt last, ih _ (by simpa using sorted)]
      simp
  exact grow ms [] sorted

end Members

theorem canonicalList_iff {vs : List Json} : CanonicalList vs ↔ ∀ v ∈ vs, Canonical v := by
  induction vs with
  | nil => simp [CanonicalList]
  | cons v rest ih => simp [CanonicalList, ih]

theorem canonicalMembers_iff {ms : Members} :
    CanonicalMembers ms ↔ ∀ m ∈ ms, Canonical m.2 := by
  induction ms with
  | nil => simp [CanonicalMembers]
  | cons m rest ih =>
    obtain ⟨k, v⟩ := m
    simp [CanonicalMembers, ih]

/-- Every member of an object built from members is one of them. -/
theorem Members.mem_ofList {m : String × Json} {ms : List (String × Json)}
    (member : m ∈ Members.ofList ms) : m ∈ ms := by
  have back : ∀ (rest : List (String × Json)) (acc : Members),
      m ∈ rest.foldl (fun acc m => Members.insert m.1 m.2 acc) acc → m ∈ acc ∨ m ∈ rest := by
    intro rest
    induction rest with
    | nil => exact fun _ here => .inl here
    | cons n rest ih =>
      intro acc here
      rcases ih _ here with here | there
      · rcases Members.mem_insert here with same | old
        · exact .inr (same ▸ List.mem_cons_self)
        · exact .inl old
      · exact .inr (List.mem_cons_of_mem _ there)
  exact (back ms [] member).resolve_left (List.not_mem_nil)

end ChatRelay.Json
