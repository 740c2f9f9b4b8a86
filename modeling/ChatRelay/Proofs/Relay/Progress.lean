import ChatRelay.Proofs.Relay.Chronicle

/-!
# How turns move on

An action moves its own turn and no other, and only while the turn is under way. A turn that has
ended or been dropped stays so, whatever else happens.
-/
namespace ChatRelay.Relay

variable {s s' : Relay} {i : Nat} {t : Turn} {c : CheckedTurn} {a : Action}

theorem completion?_of_isLive {p : Phase} (live : p.isLive = true) : p.completion? = none := by
  cases p with
  | ended result => cases live
  | _ => rfl

theorem Arrives.live {locks : LockTable} (arrives : Arrives s i t c locks) :
    (s.phase i).isLive = true := by
  rcases arrives.outside with ready | ⟨c, queued⟩
  · rw [ready]; rfl
  · rw [queued]; rfl

/-- A transition is about a turn that is under way. -/
theorem Transition.turn_live (moves : Transition s i t a s') :
    a.turn = i ∧ (s.phase i).isLive = true := by
  cases moves with
  | refused ready fails => exact ⟨rfl, by rw [ready]; rfl⟩
  | waits arrives behind => exact ⟨rfl, arrives.live⟩
  | unloaded arrives owns fails => exact ⟨rfl, arrives.live⟩
  | calls arrives owns loads delays => exact ⟨rfl, arrives.live⟩
  | callsAndEnds arrives owns loads prompt => exact ⟨rfl, arrives.live⟩
  | stays calling => exact ⟨rfl, by rw [calling]; rfl⟩
  | ends calling due => exact ⟨rfl, by rw [calling]; rfl⟩
  | droppedFresh ready => exact ⟨rfl, by rw [ready]; rfl⟩
  | dropped waits =>
    rcases waits with queued | ⟨left, calling⟩
    · exact ⟨rfl, by rw [queued]; rfl⟩
    · exact ⟨rfl, by rw [calling]; rfl⟩

/-- An action on a turn that has ended or been dropped does nothing. -/
theorem step_idle (still : (s.phase a.turn).isLive = false) : s.step a = s := by
  rcases step_cases s a with ⟨same, _⟩ | ⟨i, t, here, moves⟩
  · exact same
  · obtain ⟨rfl, live⟩ := moves.turn_live
    rw [still] at live
    cases live

/-- An action leaves the other turns where they are. -/
theorem step_phase_of_ne (different : i ≠ a.turn) : (s.step a).phase i = s.phase i := by
  rcases step_cases s a with ⟨same, _⟩ | ⟨j, t, here, moves⟩
  · rw [same]
  rw [moves.turn_live.1] at different
  generalize s.step a = s' at moves
  cases moves <;> exact Function.update_of_ne different _ _

/-- A turn that has ended stays as it has ended. -/
theorem step_phase_of_ended (still : (s.phase i).isLive = false) :
    (s.step a).phase i = s.phase i := by
  by_cases same : i = a.turn
  · subst same
    rw [step_idle still]
  · exact step_phase_of_ne same

theorem run_run (s : Relay) (actions more : List Action) :
    s.run (actions ++ more) = (s.run actions).run more := List.foldl_append

theorem run_turns (s : Relay) (actions : List Action) : (s.run actions).turns = s.turns := by
  induction actions using List.reverseRecOn with
  | nil => rfl
  | append_singleton rest a ih => rw [run_append, step_turns, ih]

theorem run_registry (s : Relay) (actions : List Action) :
    (s.run actions).registry = s.registry := by
  induction actions using List.reverseRecOn with
  | nil => rfl
  | append_singleton rest a ih => rw [run_append, step_registry, ih]

/-- A turn that has ended or been dropped stays so. -/
theorem run_phase_of_ended (actions : List Action) (still : (s.phase i).isLive = false) :
    (s.run actions).phase i = s.phase i := by
  induction actions using List.reverseRecOn with
  | nil => rfl
  | append_singleton rest a ih =>
    rw [run_append, step_phase_of_ended (by rw [ih, still]), ih]

/-- A turn that has ended by some point of a run has ended so when the run is over. -/
theorem run_phase_of_prefix {before actions : List Action} (earlier : before <+: actions)
    (still : ((s.run before).phase i).isLive = false) :
    (s.run actions).phase i = (s.run before).phase i := by
  obtain ⟨rest, rfl⟩ := earlier
  rw [run_run, run_phase_of_ended rest still]

end ChatRelay.Relay
