import ChatRelay.Proofs.Relay.Chronicle

/-!
# Turns run as if one after another

Whatever the order in which turns are polled and dropped, however long their vendors take and
whatever they answer, the turns of a session are let in one at a time, each sends the history as the
turns recorded before it have left it, and what the store holds at any time is what the recorded
turns have added, in the order in which they were let in.
-/
namespace ChatRelay.Relay

variable {s : Relay} {i : Nat} {t : Turn} {c : CheckedTurn} {a : Action}

/-- A call is made by the turn let in last, with the history as it has been recorded and the turn's
new items. -/
structure Sent (s : Relay) (before : List Action) (call : VendorCall) (t : Turn)
    (converter : Converter) : Prop where
  here : s.turns[call.turn]? = some t
  provider : call.provider = t.provider
  registered : s.registry.get t.provider = .ok converter
  acquires : (s.run before).acquires call.turn = true
  made : (s.run (before ++ [.poll call.turn])).calls = (s.run before).calls ++ [call]
  payload : converter.payload (recordedHistory s before t.session) t.request = .ok call.payload

/-- The call made by a turn that is let in, when the run until then has been told truly. -/
theorem sent_callOf {registry : Registry} {sink : UsageSink} {store : Store} {turns : List Turn}
    {before : List Action} (here : turns[i]? = some t) (passes : check registry t = .ok c)
    (acquires : ((start registry sink store turns).run before).acquires i = true)
    (called : ((start registry sink store turns).run (before ++ [.poll i])).calls =
      ((start registry sink store turns).run before).calls ++
        [callOf ((start registry sink store turns).run before) i t c]) :
    Sent (start registry sink store turns) before
      (callOf ((start registry sink store turns).run before) i t c) t c.converter where
  here := here
  provider := rfl
  registered := (check_eq_ok passes).1
  acquires := acquires
  made := called
  payload := by
    rw [Converter.payload, (check_eq_ok passes).2, ← history_run]
    rfl

/-- Each call of a run was made by one of its polls, with the history as recorded until then. -/
theorem payloads_run (registry : Registry) (sink : UsageSink) (store : Store) (turns : List Turn)
    (actions : List Action) :
    ∀ call ∈ ((start registry sink store turns).run actions).calls, ∃ before after t converter,
      actions = before ++ .poll call.turn :: after ∧
        Sent (start registry sink store turns) before call t converter := by
  induction actions using List.reverseRecOn with
  | nil =>
    intro call member
    cases member
  | append_singleton rest a ih =>
    intro call member
    have faithful := faithful_run registry sink store turns rest
    have guarded := faithful.guarded
    rw [Chronicle.relay_run] at guarded
    have earlier (made : call ∈ ((start registry sink store turns).run rest).calls) :
        ∃ before after t converter, rest ++ [a] = before ++ .poll call.turn :: after ∧
          Sent (start registry sink store turns) before call t converter := by
      obtain ⟨before, after, t, converter, split, sent⟩ := ih call made
      exact ⟨before, after ++ [a], t, converter, by rw [split]; simp, sent⟩
    rcases guarded.step_calls a with same | ⟨i, t, c, rfl, here, acquires, passes, called⟩
    · rw [run_append, same] at member
      exact earlier member
    · rw [run_append, called, List.mem_append, List.mem_singleton] at member
      rcases member with made | rfl
      · exact earlier made
      · have turnsKept := faithful.turns
        have registryKept := faithful.registry
        rw [Chronicle.relay_run] at turnsKept registryKept
        rw [turnsKept] at here
        rw [registryKept] at passes
        exact ⟨rest, [], t, c.converter, rfl,
          sent_callOf here passes acquires (by rw [run_append, called])⟩

end ChatRelay.Relay
