import ChatRelay.Proofs.Locks.Interleaving
import ChatRelay.Proofs.Relay.Transitions

/-!
# Who owns the lock of a session

The lock table of a relay is a table in use: the turns that wait for a lock or for the vendor hold
handles, the others hold none, and every action is a sequence of the table's own steps. A turn that
waits for the vendor is first in the queue of its session. So no other turn of the session waits for
the vendor, and none is let in.
-/
namespace ChatRelay

/-- Where a turn of a session stands with its lock. -/
def Phase.tenure (session : String) : Phase → Tenure
  | .queued _ => .holding session
  | .calling _ _ => .holding session
  | .ready => .idle
  | .ended _ => .idle
  | .cancelled => .idle

namespace LockTable

variable {t : LockTable} {i j : Nat} {session id : String}

theorem isOwner_iff : t.isOwner i id = true ↔ (t.queue id).head? = some i := by
  simp [isOwner]

/-- A turn that owns a lock keeps it when another one asks for a lock. -/
theorem WellFormed.isOwner_take (wf : t.WellFormed) (absent : i ∉ t.handles.map LockHandle.turn)
    (owns : t.isOwner j id = true) : (t.take i session).isOwner j id = true := by
  rw [isOwner_iff] at owns ⊢
  rw [wf.queue_take absent, List.head?_append, owns, Option.some_or]

/-- A turn that owns a lock keeps it when another one gives its handle back. -/
theorem WellFormed.isOwner_release (wf : t.WellFormed) (different : j ≠ i)
    (owns : t.isOwner j id = true) : ((t.giveBack i).release session).isOwner j id = true := by
  rw [isOwner_iff] at owns ⊢
  rw [wf.giveBack.queue_release, wf.queue_giveBack]
  obtain ⟨rest, queued⟩ := List.head?_eq_some_iff.1 owns
  rw [queued, List.filter_cons_of_pos (by simpa using different), List.head?_cons]

end LockTable

namespace Relay

def tenureOf (turns : List Turn) (phase : Nat → Phase) (i : Nat) : Tenure :=
  match turns[i]? with
  | some t => (phase i).tenure t.session
  | none => .idle

/-- The lock table of a relay, in use by its turns. -/
def locking (s : Relay) : Locking := ⟨s.locks, tenureOf s.turns s.phase⟩

theorem locking_start (registry : Registry) (sink : UsageSink) (store : Store) (turns : List Turn) :
    (start registry sink store turns).locking = Locking.start := by
  simp only [locking, Locking.start, start, Locking.mk.injEq, true_and]
  funext i
  unfold tenureOf
  split <;> rfl

variable {s : Relay} {i : Nat} {t : Turn} {c : CheckedTurn} {locks : LockTable}

theorem tenureOf_here {turns : List Turn} (here : turns[i]? = some t) (phase : Nat → Phase) :
    tenureOf turns phase i = (phase i).tenure t.session := by
  simp only [tenureOf, here]

/-- Only the turn that comes to a new phase stands otherwise with its lock. -/
theorem tenureOf_update {turns : List Turn} (here : turns[i]? = some t) (phase : Nat → Phase)
    (p : Phase) :
    tenureOf turns (Function.update phase i p) =
      Function.update (tenureOf turns phase) i (p.tenure t.session) := by
  funext j
  by_cases same : j = i
  · subst same
    rw [tenureOf_here here, Function.update_self, Function.update_self]
  · rw [tenureOf, Function.update_of_ne same, Function.update_of_ne same, tenureOf]

/-- A turn that moves on and stands with its lock as before. -/
theorem locking_same (here : s.turns[i]? = some t) {p : Phase}
    (same : (s.phase i).tenure t.session = p.tenure t.session) :
    (⟨s.locks, tenureOf s.turns (Function.update s.phase i p)⟩ : Locking) = s.locking := by
  rw [tenureOf_update here, ← same, ← tenureOf_here here, Function.update_eq_self, locking]

/-- A turn that holds a handle stands so in the table in use. -/
theorem locking_holds (here : s.turns[i]? = some t)
    (holds : (s.phase i).tenure t.session = .holding t.session) :
    s.locking = ⟨s.locks, Function.update (tenureOf s.turns s.phase) i (.holding t.session)⟩ := by
  rw [← holds, ← tenureOf_here here, Function.update_eq_self, locking]

/-- A turn that arrives has taken a handle, now or before. -/
theorem Arrives.run (arrives : Arrives s i t c locks) (here : s.turns[i]? = some t) :
    ∃ steps, s.locking.run steps =
      ⟨locks, Function.update (tenureOf s.turns s.phase) i (.holding t.session)⟩ := by
  cases arrives with
  | asks ready passes =>
    have idle : s.locking.tenure i = .idle := by
      simp only [locking, tenureOf_here here, ready, Phase.tenure]
    refine ⟨[.take i t.session], ?_⟩
    simp only [Locking.run, List.foldl_cons, List.foldl_nil, Locking.step, idle]
    rfl
  | waited queued => exact ⟨[], locking_holds here (by rw [queued, Phase.tenure])⟩

/-- A turn that holds a handle gives it back and looks whether the lock may go. -/
theorem run_freed {steps : List Locking.Action} (here : s.turns[i]? = some t)
    (ran : s.locking.run steps =
      ⟨locks, Function.update (tenureOf s.turns s.phase) i (.holding t.session)⟩)
    {p : Phase} (done : p.tenure t.session = .idle) :
    (⟨freed locks i t, tenureOf s.turns (Function.update s.phase i p)⟩ : Locking) =
      s.locking.run (steps ++ [.giveBack i, .release i]) := by
  rw [tenureOf_update here, done]
  unfold Locking.run at ran ⊢
  rw [List.foldl_append, ran]
  simp only [List.foldl_cons, List.foldl_nil, Locking.step, Function.update_self,
    Function.update_idem, freed]

/-- Every action is a sequence of steps of the lock table. -/
theorem locking_step (s : Relay) (a : Action) :
    ∃ steps, (s.step a).locking = s.locking.run steps := by
  rcases step_cases s a with ⟨same, _⟩ | ⟨i, t, here, moves⟩
  · exact ⟨[], by rw [same]; rfl⟩
  generalize s.step a = s' at moves
  cases moves with
  | refused ready fails => exact ⟨[], locking_same here (by rw [ready]; rfl)⟩
  | waits arrives behind =>
    obtain ⟨steps, ran⟩ := arrives.run here
    exact ⟨steps, by rw [ran, locking, tenureOf_update here]; rfl⟩
  | unloaded arrives owns fails =>
    obtain ⟨steps, ran⟩ := arrives.run here
    exact ⟨_, run_freed here ran rfl⟩
  | calls arrives owns loads delays =>
    obtain ⟨steps, ran⟩ := arrives.run here
    exact ⟨steps, by rw [ran, locking, tenureOf_update here]; rfl⟩
  | callsAndEnds arrives owns loads prompt =>
    obtain ⟨steps, ran⟩ := arrives.run here
    exact ⟨_, run_freed here ran rfl⟩
  | stays calling => exact ⟨[], locking_same here (by rw [calling]; rfl)⟩
  | ends calling due =>
    have ran : s.locking.run [] = _ := locking_holds here (by rw [calling, Phase.tenure])
    exact ⟨_, run_freed here ran rfl⟩
  | droppedFresh ready => exact ⟨[], locking_same here (by rw [ready]; rfl)⟩
  | dropped waits =>
    have ran : s.locking.run [] = _ := locking_holds here (by
      rcases waits with queued | ⟨left, calling⟩
      · rw [queued, Phase.tenure]
      · rw [calling, Phase.tenure])
    exact ⟨_, run_freed here ran rfl⟩

/-- The table is in proper use, a turn that waits for the vendor owns its lock, and a turn that
waits at all has passed its checks. -/
structure Guarded (s : Relay) : Prop where
  locking : s.locking.Invariant
  owner : ∀ {i t c left}, s.turns[i]? = some t → s.phase i = .calling c left →
    s.locks.isOwner i t.session = true
  checked : ∀ {i t c}, s.turns[i]? = some t →
    (s.phase i = .queued c ∨ ∃ left, s.phase i = .calling c left) → check s.registry t = .ok c

theorem guarded_start (registry : Registry) (sink : UsageSink) (store : Store)
    (turns : List Turn) : (start registry sink store turns).Guarded where
  locking := locking_start registry sink store turns ▸ Locking.invariant_start
  owner _ calling := by cases calling
  checked _ waits := by
    rcases waits with queued | ⟨left, calling⟩
    · cases queued
    · cases calling

/-- A turn that has not been polled holds no handle. -/
theorem Guarded.absent (guarded : s.Guarded) (here : s.turns[i]? = some t)
    (ready : s.phase i = .ready) : i ∉ s.locks.handles.map LockHandle.turn := by
  refine guarded.locking.absent fun id holds => ?_
  have idle := tenureOf_here here s.phase
  rw [ready] at idle
  exact absurd (idle.symm.trans holds) (by simp [Phase.tenure])

/-- The table that a turn arrives at is well formed. -/
theorem Arrives.wellFormed (arrives : Arrives s i t c locks) (guarded : s.Guarded)
    (here : s.turns[i]? = some t) : locks.WellFormed := by
  cases arrives with
  | asks ready passes => exact guarded.locking.table.take (guarded.absent here ready)
  | waited queued => exact guarded.locking.table

/-- Whoever owns a lock when a turn arrives owns it afterwards. -/
theorem Arrives.isOwner (arrives : Arrives s i t c locks) (guarded : s.Guarded)
    (here : s.turns[i]? = some t) {j : Nat} {id : String} (owns : s.locks.isOwner j id = true) :
    locks.isOwner j id = true := by
  cases arrives with
  | asks ready passes =>
    exact guarded.locking.table.isOwner_take (guarded.absent here ready) owns
  | waited queued => exact owns

theorem Arrives.checked (arrives : Arrives s i t c locks) (guarded : s.Guarded)
    (here : s.turns[i]? = some t) : check s.registry t = .ok c := by
  cases arrives with
  | asks ready passes => exact passes
  | waited queued => exact guarded.checked here (.inl queued)

/-- What is to be shown of the new lock table and of the turn that has moved. -/
theorem Guarded.move (guarded : s.Guarded) (here : s.turns[i]? = some t) {s' : Relay} {p : Phase}
    (registry : s'.registry = s.registry) (turns : s'.turns = s.turns)
    (phase : s'.phase = Function.update s.phase i p) (locking : s'.locking.Invariant)
    (kept : ∀ j id, j ≠ i → s.locks.isOwner j id = true → s'.locks.isOwner j id = true)
    (owner : ∀ c left, p = .calling c left → s'.locks.isOwner i t.session = true)
    (checked : ∀ c, (p = .queued c ∨ ∃ left, p = .calling c left) → check s.registry t = .ok c) :
    s'.Guarded := by
  refine ⟨locking, fun {j u c left} there calling => ?_, fun {j u c} there waits => ?_⟩
  · rw [turns] at there
    rw [phase] at calling
    by_cases same : j = i
    · subst same
      rw [Function.update_self] at calling
      rw [here] at there
      cases there
      exact owner c left calling
    · rw [Function.update_of_ne same] at calling
      exact kept j u.session same (guarded.owner there calling)
  · rw [turns] at there
    rw [phase] at waits
    rw [registry]
    by_cases same : j = i
    · subst same
      rw [Function.update_self] at waits
      rw [here] at there
      cases there
      exact checked c waits
    · rw [Function.update_of_ne same] at waits
      exact guarded.checked there waits

/-- A turn that moves on and needs no lock any more. -/
theorem Guarded.leave (guarded : s.Guarded) (here : s.turns[i]? = some t) {s' : Relay} {p : Phase}
    (registry : s'.registry = s.registry) (turns : s'.turns = s.turns)
    (phase : s'.phase = Function.update s.phase i p) (locking : s'.locking.Invariant)
    (kept : ∀ j id, j ≠ i → s.locks.isOwner j id = true → s'.locks.isOwner j id = true)
    (idle : p.tenure t.session = .idle) : s'.Guarded := by
  refine guarded.move here registry turns phase locking kept ?_ ?_
  · rintro c left rfl
    cases idle
  · rintro c (rfl | ⟨left, rfl⟩) <;> cases idle

/-- Each action keeps the table in proper use. -/
theorem Guarded.step (guarded : s.Guarded) (a : Action) : (s.step a).Guarded := by
  obtain ⟨steps, ran⟩ := locking_step s a
  have locking : (s.step a).locking.Invariant := ran ▸ guarded.locking.run steps
  rcases step_cases s a with ⟨same, _⟩ | ⟨i, t, here, moves⟩
  · rwa [same]
  generalize s.step a = s' at moves locking
  cases moves with
  | refused ready fails =>
    exact guarded.leave here rfl rfl rfl locking (fun _ _ _ owns => owns) rfl
  | waits arrives behind =>
    refine guarded.move here rfl rfl rfl locking
      (fun _ _ _ owns => arrives.isOwner guarded here owns) ?_ ?_
    · rintro c left impossible
      cases impossible
    · rintro c (queued | ⟨left, impossible⟩)
      · cases queued
        exact arrives.checked guarded here
      · cases impossible
  | unloaded arrives owns fails =>
    have wf := arrives.wellFormed guarded here
    exact guarded.leave here rfl rfl rfl locking (fun _ _ different owned =>
      wf.isOwner_release different (arrives.isOwner guarded here owned)) rfl
  | calls arrives owns loads delays =>
    refine guarded.move here rfl rfl rfl locking
      (fun _ _ _ owned => arrives.isOwner guarded here owned) (fun _ _ _ => owns) ?_
    rintro c (impossible | ⟨left, calling⟩)
    · cases impossible
    · cases calling
      exact arrives.checked guarded here
  | callsAndEnds arrives owns loads prompt =>
    have wf := arrives.wellFormed guarded here
    exact guarded.leave here rfl rfl rfl locking (fun _ _ different owned =>
      wf.isOwner_release different (arrives.isOwner guarded here owned)) rfl
  | stays calling =>
    refine guarded.move here rfl rfl rfl locking (fun _ _ _ owned => owned)
      (fun _ _ _ => guarded.owner here calling) ?_
    rintro c (impossible | ⟨left, again⟩)
    · cases impossible
    · cases again
      exact guarded.checked here (.inr ⟨_, calling⟩)
  | ends calling due =>
    exact guarded.leave here rfl rfl rfl locking (fun _ _ different owned =>
      guarded.locking.table.isOwner_release different owned) rfl
  | droppedFresh ready =>
    exact guarded.leave here rfl rfl rfl locking (fun _ _ _ owned => owned) rfl
  | dropped waits =>
    exact guarded.leave here rfl rfl rfl locking (fun _ _ different owned =>
      guarded.locking.table.isOwner_release different owned) rfl

theorem Guarded.run (guarded : s.Guarded) (actions : List Action) : (s.run actions).Guarded := by
  induction actions generalizing s with
  | nil => exact guarded
  | cons a rest ih => exact ih (guarded.step a)

/-- Of the turns of one session at most one waits for the vendor. -/
theorem Guarded.exclusive (guarded : s.Guarded) {j : Nat} {u : Turn} {c' : CheckedTurn}
    {left left' : Nat} (here : s.turns[i]? = some t) (there : s.turns[j]? = some u)
    (same : t.session = u.session) (calling : s.phase i = .calling c left)
    (calling' : s.phase j = .calling c' left') : i = j := by
  have first := LockTable.isOwner_iff.1 (guarded.owner here calling)
  have second := LockTable.isOwner_iff.1 (guarded.owner there calling')
  rw [same, second] at first
  exact (Option.some.inj first).symm

/-- A turn is not let in while another one of its session waits for the vendor. -/
theorem Arrives.exclusive (arrives : Arrives s i t c locks) (guarded : s.Guarded)
    (owns : locks.isOwner i t.session = true) {j : Nat} {u : Turn} {c' : CheckedTurn} {left : Nat}
    (here : s.turns[i]? = some t) (there : s.turns[j]? = some u) (same : t.session = u.session)
    (calling : s.phase j = .calling c' left) : i = j := by
  have first := LockTable.isOwner_iff.1 owns
  have second := LockTable.isOwner_iff.1
    (arrives.isOwner guarded here (guarded.owner there calling))
  rw [same, second] at first
  exact (Option.some.inj first).symm

end Relay
end ChatRelay
