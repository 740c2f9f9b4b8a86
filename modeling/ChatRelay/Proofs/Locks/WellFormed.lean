import ChatRelay.Relay.LockTable
import Mathlib.Data.List.Nodup

/-!
# Well-formed lock tables

The table's invariant: sessions and lock numbers name each other, every handle is of the lock that
stands under its session, and no turn holds two handles. Each of the three steps keeps it, and under
it the queue of a session is what the handles of that session say, whatever lock they are of.
-/
namespace ChatRelay.LockTable

/-- Sessions and numbers name each other, numbers are not used again, every handle is of the lock
that stands under its session, and no turn holds two. -/
structure WellFormed (t : LockTable) : Prop where
  sessions : (t.locks.map Prod.fst).Nodup
  numbers : (t.locks.map Prod.snd).Nodup
  fresh : ∀ l ∈ t.locks, l.2 < t.next
  anchored : ∀ h ∈ t.handles, (h.session, h.lock) ∈ t.locks
  turns : (t.handles.map LockHandle.turn).Nodup

variable {t : LockTable} {turn other : Nat} {session : String} {lock : Nat}

theorem mem_locks_of_lock? (found : t.lock? session = some lock) : (session, lock) ∈ t.locks := by
  unfold lock? at found
  obtain ⟨⟨id, number⟩, here, same⟩ := Option.map_eq_some_iff.1 found
  have key := List.find?_some here
  simp only [decide_eq_true_eq] at key
  rw [← key, ← same]
  exact List.mem_of_find?_eq_some here

theorem lock?_eq_none_iff : t.lock? session = none ↔ ∀ l ∈ t.locks, l.1 ≠ session := by
  simp [lock?]

namespace WellFormed

theorem empty : LockTable.empty.WellFormed := by
  constructor <;> simp [LockTable.empty]

/-- A session has one lock at a time. -/
theorem lock_unique (wf : t.WellFormed) {lock' : Nat} (here : (session, lock) ∈ t.locks)
    (there : (session, lock') ∈ t.locks) : lock = lock' :=
  (Prod.mk.inj (List.inj_on_of_nodup_map wf.sessions here there rfl)).2

theorem session_unique (wf : t.WellFormed) {session' : String} (here : (session, lock) ∈ t.locks)
    (there : (session', lock) ∈ t.locks) : session = session' :=
  (Prod.mk.inj (List.inj_on_of_nodup_map wf.numbers here there rfl)).1

theorem lock?_eq_some_iff (wf : t.WellFormed) :
    t.lock? session = some lock ↔ (session, lock) ∈ t.locks := by
  refine ⟨mem_locks_of_lock?, fun member => ?_⟩
  cases found : t.lock? session with
  | none => exact absurd rfl (lock?_eq_none_iff.1 found _ member)
  | some lock' => rw [wf.lock_unique member (mem_locks_of_lock? found)]

/-- A lock is used exactly when some turn holds a handle for its session. -/
theorem isUsed_iff (wf : t.WellFormed) (stands : (session, lock) ∈ t.locks) :
    t.isUsed lock = true ↔ ∃ h ∈ t.handles, h.session = session := by
  simp only [isUsed, List.any_eq_true, decide_eq_true_eq]
  constructor
  · rintro ⟨h, held, rfl⟩
    exact ⟨h, held, wf.session_unique (wf.anchored h held) stands⟩
  · rintro ⟨h, held, rfl⟩
    exact ⟨h, held, wf.lock_unique (wf.anchored h held) stands⟩

theorem take (wf : t.WellFormed) (absent : turn ∉ t.handles.map LockHandle.turn) :
    (t.take turn session).WellFormed := by
  have turns (lock : Nat) :
      ((t.handles ++ [LockHandle.mk turn session lock]).map LockHandle.turn).Nodup := by
    simpa using List.Nodup.concat absent wf.turns
  unfold LockTable.take
  split
  · rename_i lock found
    refine ⟨wf.sessions, wf.numbers, wf.fresh, fun h held => ?_, turns lock⟩
    rcases List.mem_append.1 held with old | new
    · exact wf.anchored h old
    · rw [List.mem_singleton.1 new]
      exact mem_locks_of_lock? found
  · rename_i missing
    have newSession : session ∉ t.locks.map Prod.fst := by
      rw [List.mem_map]
      rintro ⟨l, member, same⟩
      exact lock?_eq_none_iff.1 missing l member same
    have newNumber : t.next ∉ t.locks.map Prod.snd := by
      rw [List.mem_map]
      rintro ⟨l, member, same⟩
      exact Nat.ne_of_lt (wf.fresh l member) same
    refine ⟨by simpa using List.Nodup.concat newSession wf.sessions,
      by simpa using List.Nodup.concat newNumber wf.numbers,
      fun l member => ?_, fun h held => ?_, turns t.next⟩
    · rcases List.mem_append.1 member with old | new
      · exact Nat.lt_succ_of_lt (wf.fresh l old)
      · rw [List.mem_singleton.1 new]
        exact Nat.lt_succ_self _
    · rcases List.mem_append.1 held with old | new
      · exact List.mem_append_left _ (wf.anchored h old)
      · rw [List.mem_singleton.1 new]
        exact List.mem_append_right _ (List.mem_singleton.2 rfl)

theorem giveBack (wf : t.WellFormed) : (t.giveBack turn).WellFormed where
  sessions := wf.sessions
  numbers := wf.numbers
  fresh := wf.fresh
  anchored h held := wf.anchored h (List.mem_filter.1 held).1
  turns := wf.turns.sublist (List.filter_sublist.map _)

theorem release (wf : t.WellFormed) : (t.release session).WellFormed := by
  unfold LockTable.release
  split
  · rename_i lock found
    split
    · exact wf
    · rename_i unused
      refine ⟨wf.sessions.sublist (List.filter_sublist.map _),
        wf.numbers.sublist (List.filter_sublist.map _),
        fun l member => wf.fresh l (List.mem_filter.1 member).1, ?_, wf.turns⟩
      intro h held
      refine List.mem_filter.2 ⟨wf.anchored h held, ?_⟩
      -- the lock that goes is unused, so no handle is of its session
      have stands := mem_locks_of_lock? found
      simp only [ne_eq, decide_not, Bool.not_eq_eq_eq_not, Bool.not_true, decide_eq_false_iff_not]
      exact fun same => unused ((wf.isUsed_iff stands).2 ⟨h, held, same⟩)
  · exact wf

end WellFormed

theorem handles_take :
    (t.take turn session).handles =
      t.handles ++ [⟨turn, session, (t.lock? session).getD t.next⟩] := by
  unfold take
  split
  · rename_i lock found
    simp [found]
  · rename_i missing
    simp [missing]

/-- Giving back a handle takes away those of the turn and no others. -/
theorem mem_handles_giveBack {h : LockHandle} :
    h ∈ (t.giveBack turn).handles ↔ h ∈ t.handles ∧ h.turn ≠ turn := by
  simp [giveBack]

@[simp] theorem handles_release : (t.release session).handles = t.handles := by
  unfold release
  split
  · split <;> rfl
  · rfl

/-- Which locks stand after a lock has been looked at for its removal. -/
theorem WellFormed.mem_locks_release (wf : t.WellFormed) {l : String × Nat} :
    l ∈ (t.release session).locks ↔
      l ∈ t.locks ∧ (l.1 = session → ∃ h ∈ t.handles, h.session = session) := by
  unfold LockTable.release
  split
  · rename_i lock found
    have stands := mem_locks_of_lock? found
    split
    · rename_i used
      exact ⟨fun member => ⟨member, fun _ => (wf.isUsed_iff stands).1 used⟩, And.left⟩
    · rename_i unused
      rw [wf.isUsed_iff stands] at unused
      simp [List.mem_filter, unused]
  · rename_i missing
    exact ⟨fun member => ⟨member, fun same => absurd same (lock?_eq_none_iff.1 missing l member)⟩,
      And.left⟩

/-- The queue of a session is read off the handles alone. -/
theorem WellFormed.queue_eq (wf : t.WellFormed) (session : String) :
    t.queue session =
      (t.handles.filter fun h => h.session = session).map LockHandle.turn := by
  unfold queue
  split
  · rename_i lock found
    have stands := mem_locks_of_lock? found
    congr 1
    refine List.filter_congr fun h held => ?_
    have anchored := wf.anchored h held
    simp only [decide_eq_decide]
    constructor
    · rintro rfl
      exact wf.session_unique anchored stands
    · rintro rfl
      exact wf.lock_unique anchored stands
  · rename_i missing
    symm
    simp only [List.map_eq_nil_iff, List.filter_eq_nil_iff, decide_eq_true_eq]
    exact fun h held same => lock?_eq_none_iff.1 missing _ (wf.anchored h held) same

/-- A turn that takes a handle goes to the end of its session's queue, and of no other. -/
theorem WellFormed.queue_take (wf : t.WellFormed)
    (absent : turn ∉ t.handles.map LockHandle.turn) (id : String) :
    (t.take turn session).queue id =
      t.queue id ++ if session = id then [turn] else [] := by
  rw [(wf.take absent).queue_eq, wf.queue_eq]
  rw [handles_take, List.filter_append, List.map_append]
  by_cases same : session = id <;> simp [same]

/-- A turn that gives its handle back leaves every queue; the others keep their order. -/
theorem WellFormed.queue_giveBack (wf : t.WellFormed) (id : String) :
    (t.giveBack turn).queue id = (t.queue id).filter fun i => i ≠ turn := by
  rw [wf.giveBack.queue_eq, wf.queue_eq, List.filter_map]
  simp only [LockTable.giveBack, List.filter_filter, Function.comp_def, Bool.and_comm]

/-- Looking at a lock for its removal moves no turn in any queue. -/
theorem WellFormed.queue_release (wf : t.WellFormed) (id : String) :
    (t.release session).queue id = t.queue id := by
  rw [wf.release.queue_eq, wf.queue_eq, handles_release]

end ChatRelay.LockTable
