import ChatRelay.Store
import Mathlib.Data.Finset.Card

/-!
# A store over any operations

A store is a map of lists that only grow: what a session holds after any operations is what they
have appended to its id, in their order, whatever they have done to other ids. Asking for a session
is not among the things that make or change one, and an append of nothing is among those that make
one.
-/
namespace ChatRelay.Store

def sessions (s : Store) : List String := s.histories.map Prod.fst

/-- A store in which one session has grown by some items, or begun with them. -/
structure Grown (id : String) (items : List Item) (before after : Store) : Prop where
  own : after.history id = before.history id ++ items
  others : ∀ other, other ≠ id → after.history other = before.history other
  sessions : after.sessions =
    if id ∈ before.sessions then before.sessions else before.sessions ++ [id]

theorem sessions_append (s : Store) (id : String) (items : List Item) :
    (s.append id items).sessions = if id ∈ s.sessions then s.sessions else s.sessions ++ [id] := by
  obtain ⟨histories⟩ := s
  simp only [append, sessions]
  induction histories with
  | nil => simp [extend]
  | cons h rest ih =>
    obtain ⟨i, old⟩ := h
    by_cases same : i = id
    · simp [extend, same]
    · rw [extend, if_neg same, List.map_cons, ih]
      by_cases begun : id ∈ rest.map Prod.fst
      · simp [begun]
      · simp [begun, Ne.symm same]

/-- An append grows the session it is for and no other. -/
theorem grown_append (s : Store) (id : String) (items : List Item) :
    Grown id items s (s.append id items) where
  own := history_append_self s id items
  others _ different := history_append_of_ne s different items
  sessions := sessions_append s id items

theorem length_sessions (s : Store) : s.sessions.length = s.size := List.length_map _

/-- One operation on a store. -/
inductive Operation where
  | load (id : String)
  | append (id : String) (items : List Item)
  deriving Repr

/-- The store after an operation, and the session that it returns. -/
def perform (s : Store) : Operation → Store × Option Session
  | .load id => (s, some (s.load id))
  | .append id items => (s.append id items, none)

/-- The store after operations in their order, and what each of them returns. -/
def run (s : Store) : List Operation → Store × List (Option Session)
  | [] => (s, [])
  | o :: rest =>
    let (s, returned) := s.perform o
    let (s, others) := s.run rest
    (s, returned :: others)

def after (ops : List Operation) : Store := (empty.run ops).1

namespace Operation

/-- The id that an operation appends to. -/
def target? : Operation → Option String
  | .load _ => none
  | .append id _ => some id

/-- The items that an operation appends to an id. -/
def itemsFor (id : String) : Operation → List Item
  | .load _ => []
  | .append other items => if other = id then items else []

end Operation

/-- The items that operations append to an id, in their order. -/
def appendedTo (id : String) (ops : List Operation) : List Item := ops.flatMap (·.itemsFor id)

def targets (ops : List Operation) : List String := ops.filterMap Operation.target?

section

variable (s : Store) (o : Operation)

theorem history_perform (id : String) :
    (s.perform o).1.history id = s.history id ++ o.itemsFor id := by
  cases o with
  | load other => exact (List.append_nil _).symm
  | append other items =>
    by_cases own : other = id
    · subst own
      simp [perform, Operation.itemsFor]
    · have apart : id ≠ other := Ne.symm own
      simp [perform, Operation.itemsFor, own, history_append_of_ne s apart]

theorem mem_sessions_perform (id : String) :
    id ∈ (s.perform o).1.sessions ↔ id ∈ s.sessions ∨ o.target? = some id := by
  cases o with
  | load other => simp [perform, Operation.target?]
  | append other items =>
    rw [perform, sessions_append, Operation.target?, Option.some_inj]
    by_cases begun : other ∈ s.sessions
    · rw [if_pos begun]
      constructor
      · exact Or.inl
      · rintro (here | rfl)
        · exact here
        · exact begun
    · rw [if_neg begun, List.mem_append, List.mem_singleton, eq_comm (a := id)]

theorem nodup_sessions_perform {s : Store} (distinct : s.sessions.Nodup) :
    (s.perform o).1.sessions.Nodup := by
  cases o with
  | load other => exact distinct
  | append other items =>
    rw [perform, sessions_append]
    split
    · exact distinct
    next absent =>
      apply List.nodup_append.2
      refine ⟨distinct, List.nodup_singleton other, ?_⟩
      intro id member id' here same
      obtain rfl := List.mem_singleton.1 here
      exact absent (same ▸ member)

end

theorem run_append (s : Store) (before rest : List Operation) :
    s.run (before ++ rest) =
      (((s.run before).1.run rest).1, (s.run before).2 ++ ((s.run before).1.run rest).2) := by
  induction before generalizing s with
  | nil => rfl
  | cons o before ih => simp [run, ih]

/-- After any operations a session has what it had, and then what was appended to it, in order. -/
theorem history_run (s : Store) (ops : List Operation) (id : String) :
    (s.run ops).1.history id = s.history id ++ appendedTo id ops := by
  induction ops generalizing s with
  | nil => exact (List.append_nil _).symm
  | cons o rest ih =>
    have later := ih (s.perform o).1
    rw [history_perform, List.append_assoc] at later
    exact later

theorem mem_sessions_run (s : Store) (ops : List Operation) (id : String) :
    id ∈ (s.run ops).1.sessions ↔ id ∈ s.sessions ∨ id ∈ targets ops := by
  induction ops generalizing s with
  | nil => simp [run, targets]
  | cons o rest ih =>
    have later := ih (s.perform o).1
    rw [mem_sessions_perform, or_assoc] at later
    refine later.trans (or_congr_right ?_)
    simp [targets]

/-- No session begins twice. -/
theorem nodup_sessions_run {s : Store} (distinct : s.sessions.Nodup) (ops : List Operation) :
    (s.run ops).1.sessions.Nodup := by
  induction ops generalizing s with
  | nil => exact distinct
  | cons o rest ih => exact ih (nodup_sessions_perform o distinct)

/-- Each operation returns what it returns from the store after those before it. -/
theorem returned_run (s : Store) (ops : List Operation) (i : Nat) :
    (s.run ops).2[i]? = ops[i]?.map fun o => ((s.run (ops.take i)).1.perform o).2 := by
  induction ops generalizing s i with
  | nil => rfl
  | cons o rest ih =>
    cases i with
    | zero => rfl
    | succ i => exact ih (s.perform o).1 i

theorem history_after (ops : List Operation) (id : String) :
    (after ops).history id = appendedTo id ops := history_run empty ops id

theorem after_take_succ {ops : List Operation} {i : Nat} {o : Operation} (here : ops[i]? = some o) :
    after (ops.take (i + 1)) = ((after (ops.take i)).perform o).1 := by
  rw [List.take_add_one, here, after, run_append]
  rfl

/-- There are as many sessions as ids that operations append to. -/
theorem size_after (ops : List Operation) : (after ops).size = (targets ops).toFinset.card := by
  have distinct : (after ops).sessions.Nodup := nodup_sessions_run (s := empty) List.nodup_nil ops
  have same : (after ops).sessions.toFinset = (targets ops).toFinset := by
    ext id
    have begun := mem_sessions_run empty ops id
    rw [or_iff_right (show id ∉ empty.sessions from List.not_mem_nil)] at begun
    rw [List.mem_toFinset, List.mem_toFinset]
    exact begun
  rw [← length_sessions, ← List.toFinset_card_of_nodup distinct, same]

/-- Over operations from an empty store, the sessions are lists that only grow, one for each id that
is appended to. -/
structure KeepsLists (ops : List Operation) : Prop where
  /-- A load returns what has been appended to its id before it. -/
  loaded : ∀ (i : Nat) (id : String), ops[i]? = some (.load id) →
    (empty.run ops).2[i]? = some (some ⟨id, appendedTo id (ops.take i)⟩)
  /-- What a session holds at one time is a beginning of what it holds at any later time. -/
  grows : ∀ (i j : Nat) (id : String), i ≤ j →
    ((after (ops.take i)).load id).items <+: ((after (ops.take j)).load id).items
  /-- A load leaves all sessions as they are and makes none. -/
  idle : ∀ (i : Nat) (id : String), ops[i]? = some (.load id) →
    after (ops.take (i + 1)) = after (ops.take i)
  /-- An append leaves all other ids as they are. -/
  apart : ∀ (i : Nat) (id other : String) (items : List Item),
    ops[i]? = some (.append id items) → other ≠ id →
    (after (ops.take (i + 1))).load other = (after (ops.take i)).load other
  /-- There are as many sessions as ids that have been appended to. -/
  counted : (after ops).size = (targets ops).toFinset.card

/-- Whatever operations there are on an empty store, it keeps what is appended to an id as one list
that only grows. -/
theorem store_keeps_lists (ops : List Operation) : KeepsLists ops where
  loaded i id here := by
    rw [returned_run, here, Option.map_some, perform]
    exact congrArg (fun items => some (some (Session.mk id items))) (history_after (ops.take i) id)
  grows i j id earlier := by
    have held : ∀ k, ((after (ops.take k)).load id).items = appendedTo id (ops.take k) := fun k =>
      history_after (ops.take k) id
    rw [held i, held j]
    obtain ⟨more, split⟩ : ops.take i <+: ops.take j := List.take_prefix_take_left earlier
    rw [← split, appendedTo, appendedTo, List.flatMap_append]
    exact List.prefix_append _ _
  idle i id here := by
    rw [after_take_succ here]
    rfl
  apart i id other items here different := by
    rw [after_take_succ here]
    exact congrArg (Session.mk other) (history_append_of_ne _ different items)
  counted := size_after ops

/-- Of two ids one is only asked for and one is appended nothing; so one session has begun. -/
example : (after [.load "a", .append "b" [], .load "b", .append "b" []]).size = 1 := by decide

end ChatRelay.Store
