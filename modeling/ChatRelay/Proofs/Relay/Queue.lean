import ChatRelay.Proofs.Relay.Account

/-!
# First come, first served

A turn reaches the lock of its session when it is polled for the first time and passes its checks.
`Lined` says how the turns that have reached a lock stand in line: those of one session are let in
in the order in which they have come, and those that still wait come after all that have been let
in. Each thing that may happen to a turn keeps the line: it comes, it is let in, it leaves.
-/
namespace ChatRelay

def Phase.isQueued : Phase → Bool
  | .queued _ => true
  | .ready => false
  | .calling _ _ => false
  | .ended _ => false
  | .cancelled => false

theorem LockTable.WellFormed.nodup_queue {locks : LockTable} (wf : locks.WellFormed) (id : String) :
    (locks.queue id).Nodup := by
  rw [wf.queue_eq]
  exact wf.turns.sublist (List.filter_sublist.map _)

namespace Relay

/-- The turn that an action brings to the lock of its session. -/
def reachedBy (s : Relay) : Action → List Nat
  | .poll i =>
    match s.turns[i]?, s.phase i with
    | some t, .ready =>
      match check s.registry t with
      | .ok _ => [i]
      | .error _ => []
    | _, _ => []
  | .cancel _ => []

/-- The turns that a run brings to the locks of their sessions, in this order. -/
def reached (s : Relay) : List Action → List Nat
  | [] => []
  | a :: rest => s.reachedBy a ++ reached (s.step a) rest

theorem reached_append (s : Relay) (actions : List Action) (a : Action) :
    reached s (actions ++ [a]) = reached s actions ++ (s.run actions).reachedBy a := by
  induction actions generalizing s with
  | nil => simp [reached, run]
  | cons b rest ih =>
    rw [List.cons_append, reached, ih, reached, List.append_assoc]
    rfl

def waiting (phase : Nat → Phase) (locks : LockTable) (id : String) : List Nat :=
  (locks.queue id).filter fun i => (phase i).isQueued

/-- The turns that have reached the locks of their sessions, as they stand to those let in and to
the queues. -/
structure Lined (turns : List Turn) (phase : Nat → Phase) (locks : LockTable)
    (acquired arrived : List Nat) : Prop where
  nodup : arrived.Nodup
  started : ∀ i ∈ arrived, phase i ≠ .ready
  own : ∀ {i id}, i ∈ locks.queue id → isOf turns id i = true
  every : ∀ {i id}, i ∈ locks.queue id → i ∈ arrived
  order : ∀ id, (acquired.filter (isOf turns id) ++ waiting phase locks id).Sublist
    (arrived.filter (isOf turns id))

theorem lined_start (turns : List Turn) : Lined turns (fun _ => .ready) .empty [] [] where
  nodup := .nil
  started i member := by cases member
  own member := by cases member
  every member := by cases member
  order id := .slnil

variable {turns : List Turn} {phase : Nat → Phase} {locks : LockTable} {acquired arrived : List Nat}
  {i : Nat} {t : Turn} {p : Phase}

/-- The others wait as before. -/
theorem filter_isQueued_update {q : List Nat} (absent : i ∉ q) :
    q.filter (fun j => (Function.update phase i p j).isQueued) =
      q.filter fun j => (phase j).isQueued := by
  refine List.filter_congr fun j member => ?_
  have different : j ≠ i := fun same => absent (same ▸ member)
  rw [Function.update_of_ne different]

/-- Whoever has started has started still. -/
theorem update_ne_ready (after : p ≠ .ready) {j : Nat} (before : j ≠ i → phase j ≠ .ready) :
    Function.update phase i p j ≠ .ready := by
  by_cases same : j = i
  · subst same
    rwa [Function.update_self]
  · rw [Function.update_of_ne same]
    exact before same

/-- A turn that moves on without coming to its lock, being let in or leaving. -/
theorem Lined.move (lined : Lined turns phase locks acquired arrived)
    (before : (phase i).isQueued = false) (started : p ≠ .ready) (after : p.isQueued = false) :
    Lined turns (Function.update phase i p) locks acquired arrived where
  nodup := lined.nodup
  started j member := update_ne_ready started fun _ => lined.started j member
  own := lined.own
  every := lined.every
  order id := by
    have unchanged : waiting (Function.update phase i p) locks id = waiting phase locks id := by
      refine List.filter_congr fun j _ => ?_
      by_cases same : j = i
      · subst same
        rw [Function.update_self, before, after]
      · rw [Function.update_of_ne same]
    rw [unchanged]
    exact lined.order id

/-- A turn that comes to its lock goes to the end of the line. -/
theorem Lined.come (lined : Lined turns phase locks acquired arrived) (wf : locks.WellFormed)
    (here : turns[i]? = some t) (absent : i ∉ locks.handles.map LockHandle.turn)
    (ready : phase i = .ready) {c : CheckedTurn} :
    Lined turns (Function.update phase i (.queued c)) (locks.take i t.session) acquired
      (arrived ++ [i]) := by
  have new : i ∉ arrived := fun member => lined.started i member ready
  refine ⟨by simpa using List.Nodup.concat new lined.nodup, fun j member => ?_,
    fun {j id} queued => ?_, fun {j id} queued => ?_, fun id => ?_⟩
  · refine update_ne_ready (by simp) fun different => lined.started j ?_
    exact (List.mem_append.1 member).resolve_right (by simpa using different)
  · rw [wf.queue_take absent] at queued
    rcases List.mem_append.1 queued with old | last
    · exact lined.own old
    · split at last
      · rename_i ofId
        rw [List.mem_singleton.1 last]
        exact (isOf_here here).2 ofId
      · cases last
  · rw [wf.queue_take absent] at queued
    rcases List.mem_append.1 queued with old | last
    · exact List.mem_append_left _ (lined.every old)
    · split at last
      · exact List.mem_append_right _ last
      · cases last
  · have others : i ∉ locks.queue id := fun member => new (lined.every member)
    have behind : waiting (Function.update phase i (.queued c)) (locks.take i t.session) id =
        waiting phase locks id ++ [i].filter (isOf turns id) := by
      rw [waiting, wf.queue_take absent, List.filter_append, filter_isQueued_update others, waiting]
      by_cases ofId : t.session = id
      · simp [ofId, (isOf_here here).2 ofId, Phase.isQueued]
      · simp [ofId, isOf_other here ofId]
    rw [behind, ← List.append_assoc, List.filter_append]
    exact (lined.order id).append (.refl _)

/-- The turn at the head of the queue is let in before all that wait. -/
theorem Lined.enter (lined : Lined turns phase locks acquired arrived) (wf : locks.WellFormed)
    (here : turns[i]? = some t) (owns : locks.isOwner i t.session = true) {c : CheckedTurn}
    (queued : phase i = .queued c) (c' : CheckedTurn) (left : Nat) :
    Lined turns (Function.update phase i (.calling c' left)) locks (acquired ++ [i]) arrived where
  nodup := lined.nodup
  started j member := update_ne_ready (by simp) fun _ => lined.started j member
  own := lined.own
  every := lined.every
  order id := by
    obtain ⟨rest, queue⟩ := List.head?_eq_some_iff.1 (LockTable.isOwner_iff.1 owns)
    have same : (acquired ++ [i]).filter (isOf turns id) ++
        waiting (Function.update phase i (.calling c' left)) locks id =
          acquired.filter (isOf turns id) ++ waiting phase locks id := by
      rw [List.filter_append, List.append_assoc]
      congr 1
      by_cases ofId : t.session = id
      · subst ofId
        have behind : i ∉ rest := by
          have nodup := wf.nodup_queue t.session
          rw [queue] at nodup
          exact (List.nodup_cons.1 nodup).1
        have before : (i :: rest).filter (fun j => (phase j).isQueued) =
            i :: rest.filter fun j => (phase j).isQueued :=
          List.filter_cons_of_pos (by rw [queued]; rfl)
        have after : (i :: rest).filter
            (fun j => (Function.update phase i (.calling c' left) j).isQueued) =
              rest.filter fun j => (Function.update phase i (.calling c' left) j).isQueued :=
          List.filter_cons_of_neg (by rw [Function.update_self]; exact Bool.false_ne_true)
        rw [waiting, waiting, queue, before, after, filter_isQueued_update behind,
          List.filter_singleton, (isOf_here here).2 rfl]
        rfl
      · have notOf : isOf turns id i = false := isOf_other here ofId
        have absent : i ∉ locks.queue id := fun member => by
          rw [lined.own member] at notOf
          cases notOf
        rw [waiting, filter_isQueued_update absent, List.filter_singleton, notOf, waiting]
        rfl
    rw [same]
    exact lined.order id

/-- A turn that leaves, whether it has been let in or not, lets the others keep their order. -/
theorem Lined.leave (lined : Lined turns phase locks acquired arrived) (wf : locks.WellFormed)
    (started : p ≠ .ready) :
    Lined turns (Function.update phase i p) (freed locks i t) acquired arrived := by
  have left (id : String) :
      (freed locks i t).queue id = (locks.queue id).filter fun j => j ≠ i := by
    rw [freed, wf.giveBack.queue_release, wf.queue_giveBack]
  refine ⟨lined.nodup, fun j member => update_ne_ready started fun _ => lined.started j member,
    fun {j id} queued => ?_, fun {j id} queued => ?_, fun id => ?_⟩
  · rw [left] at queued
    exact lined.own (List.mem_filter.1 queued).1
  · rw [left] at queued
    exact lined.every (List.mem_filter.1 queued).1
  · have fewer : (waiting (Function.update phase i p) (freed locks i t) id).Sublist
        (waiting phase locks id) := by
      have others : i ∉ (locks.queue id).filter fun j => j ≠ i := by simp
      rw [waiting, left, filter_isQueued_update others, waiting]
      exact List.filter_sublist.filter _
    exact ((List.Sublist.refl _).append fewer).trans (lined.order id)

section

variable {s s' : Relay} {c : CheckedTurn} {a : Action}

/-- A turn that arrives stands in line, in which it has come now or before. -/
theorem Arrives.lined (arrives : Arrives s i t c locks) (guarded : s.Guarded)
    (here : s.turns[i]? = some t) (lined : Lined s.turns s.phase s.locks acquired arrived) :
    Lined s.turns (Function.update s.phase i (.queued c)) locks acquired
      (arrived ++ s.reachedBy (.poll i)) := by
  cases arrives with
  | asks ready passes =>
    have comes : s.reachedBy (.poll i) = [i] := by simp only [reachedBy, here, ready, passes]
    rw [comes]
    exact lined.come guarded.locking.table here (guarded.absent here ready) ready
  | waited queued =>
    have comes : s.reachedBy (.poll i) = [] := by simp only [reachedBy, here, queued]
    rw [comes, List.append_nil, ← queued, Function.update_eq_self]
    exact lined

/-- A turn that arrives and owns its lock is let in. -/
theorem Arrives.lined_enter (arrives : Arrives s i t c locks) (guarded : s.Guarded)
    (here : s.turns[i]? = some t) (owns : locks.isOwner i t.session = true) (left : Nat)
    (lined : Lined s.turns s.phase s.locks acquired arrived) :
    Lined s.turns (Function.update s.phase i (.calling c left)) locks
      (acquired ++ s.acquiredBy (.poll i)) (arrived ++ s.reachedBy (.poll i)) := by
  have entered := (arrives.lined guarded here lined).enter (arrives.wellFormed guarded here) here
    owns (Function.update_self _ _ _) c left
  rw [Function.update_idem] at entered
  rwa [acquiredBy_poll ((arrives.acquires_eq here).trans owns)]

/-- A turn that arrives, owns its lock and is over at once. -/
theorem Arrives.lined_leave (arrives : Arrives s i t c locks) (guarded : s.Guarded)
    (here : s.turns[i]? = some t) (owns : locks.isOwner i t.session = true) (started : p ≠ .ready)
    (lined : Lined s.turns s.phase s.locks acquired arrived) :
    Lined s.turns (Function.update s.phase i p) (freed locks i t)
      (acquired ++ s.acquiredBy (.poll i)) (arrived ++ s.reachedBy (.poll i)) := by
  have left := (arrives.lined_enter guarded here owns 0 lined).leave (i := i) (t := t)
    (arrives.wellFormed guarded here) started
  rwa [Function.update_idem] at left

/-- A turn that is with the vendor neither comes to its lock nor is let in. -/
theorem still_of_calling (here : s.turns[i]? = some t) {left : Nat}
    (calling : s.phase i = .calling c left) :
    s.acquiredBy (.poll i) = [] ∧ s.reachedBy (.poll i) = [] := by
  have still : s.acquires i = false := by simp only [acquires, here, calling]
  exact ⟨acquiredBy_poll_of_not still, by simp only [reachedBy, here, calling]⟩

/-- Each transition keeps the turns of a session in the order in which they reached its lock. -/
theorem Lined.transition (lined : Lined s.turns s.phase s.locks acquired arrived)
    (guarded : s.Guarded) (here : s.turns[i]? = some t) (moves : Transition s i t a s') :
    Lined s'.turns s'.phase s'.locks (acquired ++ s.acquiredBy a) (arrived ++ s.reachedBy a) := by
  cases moves with
  | refused ready fails =>
    have still : s.acquires i = false := by simp only [acquires, here, ready, fails]
    have comes : s.reachedBy (.poll i) = [] := by simp only [reachedBy, here, ready, fails]
    rw [acquiredBy_poll_of_not still, comes, List.append_nil, List.append_nil]
    exact lined.move (by rw [ready]; rfl) (by simp) rfl
  | waits arrives behind =>
    have still : s.acquires i = false := (arrives.acquires_eq here).trans behind
    rw [acquiredBy_poll_of_not still, List.append_nil]
    exact arrives.lined guarded here lined
  | unloaded arrives owns fails => exact arrives.lined_leave guarded here owns (by simp) lined
  | calls arrives owns loads delays => exact arrives.lined_enter guarded here owns t.delay lined
  | callsAndEnds arrives owns loads prompt =>
    exact arrives.lined_leave guarded here owns (by simp) lined
  | stays calling =>
    obtain ⟨still, comes⟩ := still_of_calling here calling
    rw [still, comes, List.append_nil, List.append_nil]
    exact lined.move (by rw [calling]; rfl) (by simp) rfl
  | ends calling due =>
    obtain ⟨still, comes⟩ := still_of_calling here calling
    rw [still, comes, List.append_nil, List.append_nil]
    exact lined.leave guarded.locking.table (by simp)
  | droppedFresh ready =>
    rw [acquiredBy, reachedBy, List.append_nil, List.append_nil]
    exact lined.move (by rw [ready]; rfl) (by simp) rfl
  | dropped waits =>
    rw [acquiredBy, reachedBy, List.append_nil, List.append_nil]
    exact lined.leave guarded.locking.table (by simp)

/-- No turn comes to its lock by an action that does nothing. -/
theorem reachedBy_of_still
    (still : ∀ t, s.turns[a.turn]? = some t → (s.phase a.turn).isLive = false) :
    s.reachedBy a = [] := by
  cases a with
  | cancel i => rfl
  | poll i =>
    simp only [reachedBy]
    split
    · rename_i t here ready
      have finished : (s.phase i).isLive = false := still t here
      rw [ready] at finished
      cases finished
    · rfl

theorem AtRest.lined (rest : s.AtRest) (actions : List Action) :
    Lined s.turns (s.run actions).phase (s.run actions).locks (Chronicle.run s actions).acquired
      (reached s actions) := by
  induction actions using List.reverseRecOn with
  | nil =>
    rw [rest]
    exact lined_start s.turns
  | append_singleton before a ih =>
    have turns : (s.run before).turns = s.turns := run_turns s before
    rw [run_append, reached_append, Chronicle.run_append, Chronicle.step, Chronicle.relay_run]
    rw [← turns] at ih ⊢
    rcases step_cases (s.run before) a with ⟨same, still⟩ | ⟨i, t, here, moves⟩
    · rw [same, idle_step _ a still, reachedBy_of_still still, List.append_nil, List.append_nil]
      exact ih
    · have kept := step_turns (s.run before) a
      rw [← kept]
      exact ih.transition (rest.guarded before) here moves

end

end Relay
end ChatRelay
