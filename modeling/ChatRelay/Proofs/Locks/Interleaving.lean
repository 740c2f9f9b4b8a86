import ChatRelay.Proofs.Locks.WellFormed
import Mathlib.Logic.Function.Basic

/-!
# Interleaved use of the lock table

The three steps of the lock table, each taken by some turn and interleaved in any way. A turn that
is dropped, wherever it waits, gives its handle back like one that ends, and only afterwards looks
whether the lock may go. The main statement: handles of one session are always of the one lock that
stands in the table, a lock goes exactly when nothing but the table refers to it, and when no turn
is left no lock is.
-/
namespace ChatRelay

/-- Where a turn stands with the lock of its session. -/
inductive Tenure where
  /-- It has not asked for the lock, or has done with it. -/
  | idle
  /-- It holds a handle: it waits for the lock or has it. -/
  | holding (session : String)
  /-- It has given its handle back and has yet to look whether the lock may go. -/
  | leaving (session : String)
  deriving DecidableEq, Repr

/-- A lock table in use. -/
structure Locking where
  table : LockTable
  tenure : Nat → Tenure

namespace LockTable

/-- How many refer to a lock: the table, for each entry with it, and every handle of it. -/
def references (t : LockTable) (lock : Nat) : Nat :=
  (t.locks.map Prod.snd).count lock + (t.handles.map LockHandle.lock).count lock

variable {t : LockTable} {session : String} {lock : Nat}

/-- Only the table refers to a lock exactly if no handle of it is held. -/
theorem WellFormed.references_eq_one_iff (wf : t.WellFormed) (stands : (session, lock) ∈ t.locks) :
    t.references lock = 1 ↔ t.isUsed lock = false := by
  have once : (t.locks.map Prod.snd).count lock = 1 :=
    List.count_eq_one_of_mem wf.numbers (List.mem_map.2 ⟨_, stands, rfl⟩)
  rw [references, once, Nat.add_eq_left, List.count_eq_zero]
  simp [isUsed]

/-- A lock leaves the table exactly when the table alone refers to it. -/
theorem WellFormed.lock?_release (wf : t.WellFormed) (found : t.lock? session = some lock) :
    (t.release session).lock? session =
      if t.references lock = 1 then none else some lock := by
  have stands := mem_locks_of_lock? found
  unfold LockTable.release
  rw [found]
  dsimp only
  by_cases used : t.isUsed lock
  · simp [used, wf.references_eq_one_iff stands, found]
  · simp [used, wf.references_eq_one_iff stands, lock?_eq_none_iff]

end LockTable

namespace Locking

/-- An untouched table: no turn has asked for a lock. -/
def start : Locking := ⟨.empty, fun _ => .idle⟩

inductive Action where
  | take (turn : Nat) (session : String)
  | giveBack (turn : Nat)
  | release (turn : Nat)
  deriving DecidableEq, Repr

/-- A step of a turn; a step for which the turn does not stand right does nothing. -/
def step (s : Locking) : Action → Locking
  | .take i session =>
    match s.tenure i with
    | .idle => ⟨s.table.take i session, Function.update s.tenure i (.holding session)⟩
    | .holding _ => s
    | .leaving _ => s
  | .giveBack i =>
    match s.tenure i with
    | .holding session => ⟨s.table.giveBack i, Function.update s.tenure i (.leaving session)⟩
    | .idle => s
    | .leaving _ => s
  | .release i =>
    match s.tenure i with
    | .leaving session => ⟨s.table.release session, Function.update s.tenure i .idle⟩
    | .idle => s
    | .holding _ => s

def run (s : Locking) (actions : List Action) : Locking := actions.foldl step s

/-- Whether a turn still has to do with a session's lock. -/
def Attends (s : Locking) (i : Nat) (session : String) : Prop :=
  s.tenure i = .holding session ∨ s.tenure i = .leaving session

/-- The handles are those of the turns that hold one, and every lock has a turn that attends it. -/
structure Invariant (s : Locking) : Prop where
  table : s.table.WellFormed
  held : ∀ i session, s.tenure i = .holding session ↔
    ∃ h ∈ s.table.handles, h.turn = i ∧ h.session = session
  attended : ∀ l ∈ s.table.locks, ∃ i, s.Attends i l.1

/-- Nobody refers to a lock of an untouched table. -/
theorem invariant_start : start.Invariant where
  table := .empty
  held i session := by simp [start, LockTable.empty]
  attended l member := by simp [start, LockTable.empty] at member

variable {s : Locking} {i : Nat} {session : String}

theorem Invariant.absent (inv : s.Invariant) (idle : ∀ id, s.tenure i ≠ .holding id) :
    i ∉ s.table.handles.map LockHandle.turn := by
  rw [List.mem_map]
  rintro ⟨h, held, same⟩
  exact idle h.session ((inv.held i h.session).2 ⟨h, held, same, rfl⟩)

theorem Invariant.take (inv : s.Invariant) (idle : s.tenure i = .idle) :
    Invariant ⟨s.table.take i session, Function.update s.tenure i (.holding session)⟩ := by
  have absent := inv.absent (i := i) (by simp [idle])
  refine ⟨inv.table.take absent, fun j id => ?_, fun l member => ?_⟩
  · simp only [Function.update_apply, LockTable.handles_take, List.mem_append, List.mem_singleton]
    by_cases same : j = i
    · subst same
      rw [if_pos rfl, Tenure.holding.injEq]
      constructor
      · rintro rfl
        exact ⟨_, .inr rfl, rfl, rfl⟩
      · rintro ⟨h, old | rfl, ofTurn, ofSession⟩
        · exact absurd (List.mem_map.2 ⟨h, old, ofTurn⟩) absent
        · exact ofSession
    · rw [if_neg same, inv.held]
      constructor
      · rintro ⟨h, old, ofTurn, ofSession⟩
        exact ⟨h, .inl old, ofTurn, ofSession⟩
      · rintro ⟨h, old | rfl, ofTurn, ofSession⟩
        · exact ⟨h, old, ofTurn, ofSession⟩
        · exact absurd ofTurn.symm same
  · have origin : l ∈ s.table.locks ∨ l.1 = session := by
      simp only [LockTable.take] at member
      split at member
      · exact .inl member
      · rcases List.mem_append.1 member with old | new
        · exact .inl old
        · exact .inr (by rw [List.mem_singleton.1 new])
    by_cases same : l.1 = session
    · exact ⟨i, .inl (by simp [same])⟩
    · obtain ⟨j, attends⟩ := inv.attended l (origin.resolve_right same)
      have different : j ≠ i := by
        rintro rfl
        simp [Attends, idle] at attends
      exact ⟨j, by simpa [Attends, Function.update_apply, different] using attends⟩

theorem Invariant.giveBack (inv : s.Invariant) (holds : s.tenure i = .holding session) :
    Invariant ⟨s.table.giveBack i, Function.update s.tenure i (.leaving session)⟩ := by
  refine ⟨inv.table.giveBack, fun j id => ?_, fun l member => ?_⟩
  · simp only [Function.update_apply, LockTable.mem_handles_giveBack]
    by_cases same : j = i
    · subst same
      rw [if_pos rfl]
      constructor
      · intro impossible
        cases impossible
      · rintro ⟨h, ⟨_, different⟩, ofTurn, _⟩
        exact absurd ofTurn different
    · rw [if_neg same, inv.held]
      constructor
      · rintro ⟨h, old, rfl, ofSession⟩
        exact ⟨h, ⟨old, same⟩, rfl, ofSession⟩
      · rintro ⟨h, ⟨old, _⟩, ofTurn, ofSession⟩
        exact ⟨h, old, ofTurn, ofSession⟩
  · obtain ⟨j, attends⟩ := inv.attended l member
    by_cases same : j = i
    · subst same
      have ofSession : session = l.1 := by simpa [Attends, holds] using attends
      exact ⟨j, .inr (by simp [ofSession])⟩
    · exact ⟨j, by simpa [Attends, Function.update_apply, same] using attends⟩

theorem Invariant.release (inv : s.Invariant) (leaves : s.tenure i = .leaving session) :
    Invariant ⟨s.table.release session, Function.update s.tenure i .idle⟩ := by
  refine ⟨inv.table.release, fun j id => ?_, fun l member => ?_⟩
  · simp only [Function.update_apply, LockTable.handles_release]
    by_cases same : j = i
    · subst same
      rw [if_pos rfl, ← inv.held, leaves]
      simp
    · rw [if_neg same, inv.held]
  · obtain ⟨stands, used⟩ := inv.table.mem_locks_release.1 member
    -- a lock of the same session has stayed because a handle is held; others keep their turn
    by_cases same : l.1 = session
    · obtain ⟨h, held, ofSession⟩ := used same
      have holds := (inv.held h.turn session).2 ⟨h, held, rfl, ofSession⟩
      have different : h.turn ≠ i := by
        intro equal
        rw [equal, leaves] at holds
        cases holds
      exact ⟨h.turn, .inl (by simp [different, holds, same])⟩
    · obtain ⟨j, attends⟩ := inv.attended l stands
      have different : j ≠ i := by
        rintro rfl
        have ofSession : session = l.1 := by simpa [Attends, leaves] using attends
        exact same ofSession.symm
      exact ⟨j, by simpa [Attends, Function.update_apply, different] using attends⟩

/-- Each step keeps the invariant, whichever turn takes it and whatever the others are about to do.
-/
theorem Invariant.step (inv : s.Invariant) (a : Action) : (s.step a).Invariant := by
  cases a with
  | take i session =>
    cases stand : s.tenure i with
    | idle => simpa only [Locking.step, stand] using inv.take stand
    | holding _ => simpa only [Locking.step, stand] using inv
    | leaving _ => simpa only [Locking.step, stand] using inv
  | giveBack i =>
    cases stand : s.tenure i with
    | idle => simpa only [Locking.step, stand] using inv
    | holding session => simpa only [Locking.step, stand] using inv.giveBack stand
    | leaving _ => simpa only [Locking.step, stand] using inv
  | release i =>
    cases stand : s.tenure i with
    | idle => simpa only [Locking.step, stand] using inv
    | holding _ => simpa only [Locking.step, stand] using inv
    | leaving session => simpa only [Locking.step, stand] using inv.release stand

/-- The invariant holds between any two steps of a run. -/
theorem Invariant.run (inv : s.Invariant) (actions : List Action) : (s.run actions).Invariant := by
  induction actions generalizing s with
  | nil => exact inv
  | cons a rest ih => exact ih (inv.step a)

theorem Invariant.stored (inv : s.Invariant) {h : LockHandle} (held : h ∈ s.table.handles) :
    s.table.lock? h.session = some h.lock :=
  inv.table.lock?_eq_some_iff.2 (inv.table.anchored h held)

/-- Looking at a lock for its removal takes no handle from any turn. -/
theorem handles_step_release : (s.step (.release i)).table.handles = s.table.handles := by
  cases stand : s.tenure i with
  | idle => simp only [step, stand]
  | holding _ => simp only [step, stand]
  | leaving session => simp only [step, stand, LockTable.handles_release]

/-- What holds of the table between any two steps. -/
structure Sound (s : Locking) : Prop where
  /-- The turns that hold a handle are those that took one and have not given it back. -/
  held : ∀ i session, s.tenure i = .holding session ↔
    ∃ h ∈ s.table.handles, h.turn = i ∧ h.session = session
  /-- A handle is of the very lock that stands in the table under its session. -/
  stored : ∀ h ∈ s.table.handles, s.table.lock? h.session = some h.lock
  /-- Two turns hold handles of one lock exactly when they are of one session. -/
  shared : ∀ h ∈ s.table.handles, ∀ h' ∈ s.table.handles,
    h.session = h'.session ↔ h.lock = h'.lock
  /-- A lock that is looked at goes exactly when the table alone refers to it. -/
  counted : ∀ session lock, s.table.lock? session = some lock →
    (s.table.release session).lock? session =
      if s.table.references lock = 1 then none else some lock
  /-- No removal, whoever makes it, takes a lock of which a handle is held. -/
  kept : ∀ i, ∀ h ∈ s.table.handles, (s.step (.release i)).table.lock? h.session = some h.lock
  /-- When every turn has done with its lock, no lock and no handle is left. -/
  emptied : (∀ i, s.tenure i = .idle) → s.table.locks = [] ∧ s.table.handles = []

/-- However the steps of however many turns interleave, every handle is of the lock in the table,
no lock goes while a handle of it is held, and the last turn leaves an empty table behind. -/
theorem sound_run (actions : List Action) : (start.run actions).Sound := by
  have inv := invariant_start.run actions
  generalize start.run actions = s at inv
  refine ⟨inv.held, fun h held => inv.stored held, fun h held h' held' => ?_,
    fun session lock found => inv.table.lock?_release found, fun i h held => ?_, fun idle => ?_⟩
  · constructor
    · intro same
      have found := inv.stored held'
      rw [← same, inv.stored held] at found
      exact Option.some.inj found
    · intro same
      have stands := inv.table.anchored h held
      rw [same] at stands
      exact inv.table.session_unique stands (inv.table.anchored h' held')
  · exact (inv.step (.release i)).stored (by rwa [handles_step_release])
  · constructor
    · refine List.eq_nil_iff_forall_not_mem.2 fun l member => ?_
      obtain ⟨i, attends⟩ := inv.attended l member
      simp [Attends, idle] at attends
    · refine List.eq_nil_iff_forall_not_mem.2 fun h held => ?_
      have holds := (inv.held h.turn h.session).2 ⟨h, held, rfl, rfl⟩
      rw [idle] at holds
      cases holds

end Locking
end ChatRelay
