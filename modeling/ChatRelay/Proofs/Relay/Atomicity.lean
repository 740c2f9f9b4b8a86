import ChatRelay.Proofs.Relay.Exits
import ChatRelay.Proofs.Relay.Progress
import ChatRelay.Proofs.Relay.Serializability
import ChatRelay.Proofs.Store.Histories

/-!
# Turns leave all of their traces or none

The store changes in one action of a turn that ends complete, by all that the turn has to add, and
in no other. So a turn that ends in any other way, or is dropped, can be sent again as if it had
never been. A turn that fails its checks does not even ask for a lock.
-/
namespace ChatRelay

namespace Relay

variable {s s' : Relay} {i : Nat} {t : Turn} {c : CheckedTurn} {a : Action}

/-- A turn that ends complete and is recorded. -/
structure Records (s s' : Relay) (i : Nat) (t : Turn) (items : List Item) (r : Response) :
    Prop where
  here : s.turns[i]? = some t
  parses : Input.parse t.request.input = .ok items
  taken : t.appendError = none
  ended : s'.phase i = .ended (.ok r)
  complete : r.status = .completed
  grown : Store.Grown t.session (items ++ r.output) s.store s'.store

/-- The effect of a turn that takes the vendor's answer. -/
theorem records_outcome (here : s.turns[i]? = some t) (passes : check s.registry t = .ok c)
    (phase : s'.phase = Function.update s.phase i (.ended (outcome t c)))
    (store : s'.store = storeAfter s.store t c (.ended (outcome t c))) :
    s'.store = s.store ∧ (s'.phase i).completion? = none ∨
      ∃ t items r, Records s s' i t items r := by
  have now : s'.phase i = .ended (outcome t c) := by rw [phase, Function.update_self]
  rw [storeAfter] at store
  cases completes : (Phase.ended (outcome t c)).completion? with
  | none =>
    rw [completes] at store
    exact .inl ⟨store, by rw [now, completes]⟩
  | some r =>
    rw [completes] at store
    have recorded : isRecorded s'.phase i = true := by
      rw [isRecorded, now, completes, Option.isSome_some]
    obtain ⟨answer, ended, complete⟩ := isRecorded_iff.1 recorded
    have same : answer = r := by
      rw [← now, ended, Phase.completion?, if_pos complete, Option.some.injEq] at completes
      exact completes
    subst same
    have taken := appendError_of_outcome (Phase.ended.inj (now.symm.trans ended)) complete
    exact .inr ⟨t, c.items, answer, here, (check_eq_ok passes).2, taken, ended, complete,
      store ▸ Store.grown_append s.store t.session _⟩

/-- An action on a turn that is under way leaves the store as it is and the turn incomplete, or it
records the turn. -/
theorem Guarded.step_store (guarded : s.Guarded) (live : (s.phase a.turn).isLive = true) :
    (s.step a).store = s.store ∧ ((s.step a).phase a.turn).completion? = none ∨
      ∃ t items r, Records s (s.step a) a.turn t items r := by
  rcases step_cases s a with ⟨same, _⟩ | ⟨i, t, here, moves⟩
  · rw [same]
    exact .inl ⟨rfl, completion?_of_isLive live⟩
  generalize s.step a = s' at moves
  cases moves with
  | callsAndEnds arrives owns loads prompt =>
    exact records_outcome here (arrives.checked guarded here) rfl rfl
  | ends calling due =>
    exact records_outcome here (guarded.checked here (.inr ⟨_, calling⟩)) rfl rfl
  | _ => exact .inl ⟨rfl, by simp [Action.turn, Phase.completion?]⟩

/-- No action of a turn that has not ended complete changes the store. -/
theorem Guarded.store_of_incomplete (guarded : s.Guarded) {actions before : List Action}
    (incomplete : ∀ r, (s.run actions).phase i = .ended (.ok r) → r.status ≠ .completed)
    (earlier : before ++ [a] <+: actions) (own : a.turn = i) :
    (s.run (before ++ [a])).store = (s.run before).store := by
  subst own
  rw [run_append]
  cases live : ((s.run before).phase a.turn).isLive with
  | false => rw [step_idle live]
  | true =>
    rcases (guarded.run before).step_store live with ⟨same, _⟩ | ⟨t, items, r, records⟩
    · exact same
    · have kept := run_phase_of_prefix (s := s) (i := a.turn) earlier
        (by rw [run_append, records.ended]; rfl)
      rw [run_append, records.ended] at kept
      exact absurd records.complete (incomplete r kept)

/-- A turn that has ended complete is recorded by one action of its own, and no other one of its
actions changes the store. -/
theorem Guarded.exists_records (guarded : s.Guarded) (fresh : (s.phase i).isLive = true)
    {actions : List Action} {r : Response} (ended : (s.run actions).phase i = .ended (.ok r))
    (complete : r.status = .completed) :
    ∃ t items before a, before ++ [a] <+: actions ∧ a.turn = i ∧
      Records (s.run before) (s.run (before ++ [a])) i t items r ∧
      ∀ before' a', before' ++ [a'] <+: actions → a'.turn = i → before' ≠ before →
        (s.run (before' ++ [a'])).store = (s.run before').store := by
  induction actions using List.reverseRecOn with
  | nil =>
    rw [show s.run [] = s from rfl] at ended
    rw [ended] at fresh
    cases fresh
  | append_singleton rest a ih =>
    cases live : ((s.run rest).phase i).isLive with
    | false =>
      -- the turn has been recorded before the last action
      have kept := run_phase_of_prefix (List.prefix_append rest [a]) live
      rw [kept] at ended
      obtain ⟨t, items, before, a₀, earlier, own, records, others⟩ := ih ended
      refine ⟨t, items, before, a₀, earlier.trans (List.prefix_append rest [a]), own, records, ?_⟩
      intro before' a' earlier' own' different
      rcases List.prefix_concat_iff.1 earlier' with last | earlier'
      · obtain ⟨rfl, same⟩ := List.append_inj' last rfl
        cases same
        rw [run_append, step_idle (by rw [own', live])]
      · exact others before' a' earlier' own' different
    | true =>
      have own : a.turn = i := by
        by_contra different
        rw [run_append, step_phase_of_ne (Ne.symm different)] at ended
        rw [ended] at live
        cases live
      subst own
      have incomplete (r : Response) (early : (s.run rest).phase a.turn = .ended (.ok r)) :
          r.status ≠ .completed := by
        rw [early] at live
        cases live
      rcases (guarded.run rest).step_store live with ⟨_, quiet⟩ | ⟨t, items, answer, records⟩
      · rw [← run_append, ended, Phase.completion?, if_pos complete] at quiet
        cases quiet
      · rw [← run_append] at records
        have same := records.ended.symm.trans ended
        cases same
        refine ⟨t, items, rest, a, List.prefix_rfl, rfl, records, ?_⟩
        intro before' a' earlier' own' different
        rcases List.prefix_concat_iff.1 earlier' with last | earlier'
        · exact absurd (List.append_inj' last rfl).1 different
        · exact guarded.store_of_incomplete incomplete earlier' own'

/-- What a turn that fails its checks never does. -/
structure Untouching (s : Relay) (i : Nat) : Prop where
  /-- It asks for no lock. -/
  lockless : i ∉ s.locks.handles.map LockHandle.turn
  /-- It is not let in, and so loads no history. -/
  outside : s.acquires i = false
  silent : ∀ call ∈ s.calls, call.turn ≠ i

theorem Guarded.not_acquires (guarded : s.Guarded) (here : s.turns[i]? = some t) {e : RelayError}
    (fails : check s.registry t = .error e) : s.acquires i = false := by
  by_contra entered
  obtain ⟨u, c, locks, there, arrives, _⟩ := exists_arrives (Bool.not_eq_false _ ▸ entered)
  cases here.symm.trans there
  exact nomatch fails.symm.trans (arrives.checked guarded here)

/-- A turn that fails its checks holds no handle. -/
theorem Guarded.lockless (guarded : s.Guarded) (here : s.turns[i]? = some t) {e : RelayError}
    (fails : check s.registry t = .error e) : i ∉ s.locks.handles.map LockHandle.turn := by
  refine guarded.locking.absent fun id holds => ?_
  have tenure : (s.phase i).tenure t.session = .holding id := (tenureOf_here here s.phase) ▸ holds
  cases phase : s.phase i with
  | queued c => exact nomatch fails.symm.trans (guarded.checked here (.inl phase))
  | calling c left => exact nomatch fails.symm.trans (guarded.checked here (.inr ⟨left, phase⟩))
  | _ => rw [phase] at tenure; cases tenure

/-- An action on such a turn changes nothing but how far the turn has come. -/
theorem Guarded.step_refused (guarded : s.Guarded) (here : s.turns[a.turn]? = some t)
    {e : RelayError} (fails : check s.registry t = .error e) :
    ∃ p, s.step a = { s with phase := Function.update s.phase a.turn p } ∧
      (p = s.phase a.turn ∨ p = .ended (.error e) ∨ p = .cancelled) := by
  rcases step_cases s a with ⟨same, _⟩ | ⟨i, u, there, moves⟩
  · refine ⟨s.phase a.turn, ?_, .inl rfl⟩
    rw [same, Function.update_eq_self]
  rw [moves.turn_live.1] at here ⊢
  cases here.symm.trans there
  have unchecked {c : CheckedTurn} : check s.registry t ≠ .ok c := by
    rw [fails]
    exact nofun
  generalize s.step a = s' at moves
  cases moves with
  | refused ready fails' =>
    cases fails.symm.trans fails'
    exact ⟨_, rfl, .inr (.inl rfl)⟩
  | waits arrives behind => exact absurd (arrives.checked guarded here) unchecked
  | unloaded arrives owns fails => exact absurd (arrives.checked guarded here) unchecked
  | calls arrives owns loads delays => exact absurd (arrives.checked guarded here) unchecked
  | callsAndEnds arrives owns loads prompt => exact absurd (arrives.checked guarded here) unchecked
  | stays calling => exact absurd (guarded.checked here (.inr ⟨_, calling⟩)) unchecked
  | ends calling due => exact absurd (guarded.checked here (.inr ⟨_, calling⟩)) unchecked
  | droppedFresh ready => exact ⟨_, rfl, .inr (.inr rfl)⟩
  | dropped waits => exact absurd (guarded.checked here waits) unchecked

/-- A session of which no turn ends complete keeps its history. -/
theorem Guarded.history_kept (guarded : s.Guarded) {id : String} (actions : List Action)
    (quiet : ∀ i r, isOf s.turns id i = true → (s.run actions).phase i = .ended (.ok r) →
      r.status = .completed → (s.phase i).isLive = false) :
    (s.run actions).store.history id = s.store.history id := by
  induction actions using List.reverseRecOn with
  | nil => rfl
  | append_singleton rest a ih =>
    have earlier := ih fun i r ofId ended complete => by
      have still : ((s.run rest).phase i).isLive = false := by rw [ended]; rfl
      refine quiet i r ofId ?_ complete
      rw [run_append, step_phase_of_ended still, ended]
    rw [run_append, ← earlier]
    cases live : ((s.run rest).phase a.turn).isLive with
    | false => rw [step_idle live]
    | true =>
      rcases (guarded.run rest).step_store live with ⟨same, _⟩ | ⟨t, items, r, records⟩
      · rw [same]
      · refine records.grown.others id fun same => ?_
        have here := records.here
        rw [run_turns] at here
        have still := quiet a.turn r ((isOf_here here).2 same.symm)
          (by rw [run_append, records.ended]) records.complete
        rw [run_phase_of_ended rest still, still] at live
        cases live

/-- A turn that is let in and loads its history calls its vendor. -/
theorem Guarded.calls_of_acquires (guarded : s.Guarded) (here : s.turns[i]? = some t)
    (passes : check s.registry t = .ok c) (acquires : s.acquires i = true)
    (loads : t.loadError = none) :
    (s.step (.poll i)).calls = s.calls ++ [callOf s i t c] := by
  obtain ⟨u, c', locks, there, arrives, owns⟩ := exists_arrives acquires
  cases here.symm.trans there
  rcases step_cases s (.poll i) with ⟨_, still⟩ | ⟨j, u, there, moves⟩
  · have ended : (s.phase i).isLive = false := still t here
    rw [arrives.live] at ended
    cases ended
  have same : i = j := moves.turn_live.1
  subst same
  cases here.symm.trans there
  generalize s.step (.poll i) = s' at moves
  have inside {c : CheckedTurn} {left : Nat} : s.phase i ≠ .calling c left := by
    rcases arrives.outside with ready | ⟨c, queued⟩
    · rw [ready]; exact nofun
    · rw [queued]; exact nofun
  cases moves with
  | refused ready fails => exact nomatch fails.symm.trans passes
  | waits arrives behind =>
    exact nomatch (acquires.symm.trans (arrives.acquires_eq here)).trans behind
  | unloaded arrives owns fails => exact nomatch fails.symm.trans loads
  | calls arrives owns loads delays =>
    cases passes.symm.trans (arrives.checked guarded here)
    rfl
  | callsAndEnds arrives owns loads prompt =>
    cases passes.symm.trans (arrives.checked guarded here)
    rfl
  | stays calling => exact absurd calling inside
  | ends calling due => exact absurd calling inside

/-- What each turn of a relay at rest does to the store and to its vendor, in whatever order the
turns are polled and dropped. -/
structure Atomic (s : Relay) : Prop where
  /-- No action of a turn that has not ended complete changes the store. -/
  incomplete : ∀ actions i,
    (∀ r, (s.run actions).phase i = .ended (.ok r) → r.status ≠ .completed) →
      ∀ before a, before ++ [a] <+: actions → a.turn = i →
        (s.run (before ++ [a])).store = (s.run before).store
  /-- One action of a turn that has ended complete records the turn, no other changes the store. -/
  complete : ∀ actions i r, (s.run actions).phase i = .ended (.ok r) → r.status = .completed →
    ∃ t items before a, before ++ [a] <+: actions ∧ a.turn = i ∧
      Records (s.run before) (s.run (before ++ [a])) i t items r ∧
      ∀ before' a', before' ++ [a'] <+: actions → a'.turn = i → before' ≠ before →
        (s.run (before' ++ [a'])).store = (s.run before').store
  /-- There is no other way to end. -/
  exits : ∀ actions i result, (s.run actions).phase i = .ended result →
    ∃ t, s.turns[i]? = some t ∧ Exit s.registry t result
  once : ∀ actions, ((s.run actions).calls.map VendorCall.turn).Nodup
  /-- A turn that fails its checks asks for no lock, loads nothing and calls no vendor, and its
  actions change nothing but how far it has come. -/
  refused : ∀ i t e, s.turns[i]? = some t → check s.registry t = .error e → ∀ before,
    Untouching (s.run before) i ∧ ∀ a, a.turn = i → ∃ p,
      s.run (before ++ [a]) =
        { s.run before with phase := Function.update (s.run before).phase i p } ∧
      (p = (s.run before).phase i ∨ p = .ended (.error e) ∨ p = .cancelled)
  /-- A turn that asks what another has asked before it calls the vendor with the same payload,
  unless a turn of the session has ended complete in between. -/
  repeats : ∀ before between call t converter j t', Sent s before call t converter →
    s.turns[j]? = some t' → t'.session = t.session → t'.provider = t.provider →
    t'.request = t.request → t'.loadError = none →
    (∀ k r, isOf s.turns t.session k = true →
      (s.run (before ++ between)).phase k = .ended (.ok r) → r.status = .completed →
      ((s.run before).phase k).isLive = false) →
    (s.run (before ++ between)).acquires j = true →
      (s.run (before ++ between ++ [.poll j])).calls =
        (s.run (before ++ between)).calls ++ [⟨j, call.provider, call.payload⟩]

/-- A turn that is let in when the history of its session is what it was for an earlier turn with
the same request sends what that turn has sent. -/
theorem callOf_eq_sent {registry : Registry} {sink : UsageSink} {store : Store} {turns : List Turn}
    {before : List Action} {call : VendorCall} {converter : Converter} {t' : Turn}
    (sent : Sent (start registry sink store turns) before call t converter)
    (passes : check registry t' = .ok c) (session : t'.session = t.session)
    (provider : t'.provider = t.provider) (request : t'.request = t.request)
    (history : s.store.history t.session =
      ((start registry sink store turns).run before).store.history t.session) (j : Nat) :
    callOf s j t' c = ⟨j, call.provider, call.payload⟩ := by
  obtain ⟨found, parses⟩ := check_eq_ok passes
  have payload := sent.payload
  rw [provider] at found
  cases sent.registered.symm.trans found
  rw [request] at parses
  rw [Converter.payload, parses, ← history_run, Except.ok.injEq] at payload
  rw [callOf, session, provider, request, history, payload, sent.provider]

/-- A turn that fails its checks does nothing, however often it is polled. -/
theorem untouching_run {registry : Registry} (sink : UsageSink) (store : Store)
    {turns : List Turn} (here : turns[i]? = some t) {e : RelayError}
    (fails : check registry t = .error e) (actions : List Action) :
    Untouching ((start registry sink store turns).run actions) i := by
  have guarded (actions : List Action) := (guarded_start registry sink store turns).run actions
  have stands (actions : List Action) :
      ((start registry sink store turns).run actions).turns[i]? = some t ∧
        check ((start registry sink store turns).run actions).registry t = .error e := by
    rw [run_turns, run_registry]
    exact ⟨here, fails⟩
  refine ⟨(guarded actions).lockless (stands actions).1 (stands actions).2,
    (guarded actions).not_acquires (stands actions).1 (stands actions).2, ?_⟩
  rintro call made rfl
  obtain ⟨before, _, _, _, _, sent⟩ := payloads_run registry sink store turns actions call made
  exact nomatch sent.acquires.symm.trans
    ((guarded before).not_acquires (stands before).1 (stands before).2)

/-- Whatever is polled and dropped in whatever order, a turn is recorded as a whole or not at
all. -/
theorem turns_atomic (registry : Registry) (sink : UsageSink) (store : Store) (turns : List Turn) :
    (start registry sink store turns).Atomic := by
  have guarded := guarded_start registry sink store turns
  refine ⟨fun actions i incomplete before a earlier own =>
      guarded.store_of_incomplete incomplete earlier own,
    fun actions i r ended complete => guarded.exists_records rfl ended complete,
    fun actions i result ended => ?_, fun actions => ?_,
    fun i t e here fails before => ⟨?_, fun a own => ?_⟩, ?_⟩
  · obtain ⟨t, here, exit⟩ := (accounted_run registry sink store turns actions).exits ended
    rw [run_turns] at here
    rw [run_registry] at exit
    exact ⟨t, here, exit⟩
  · have faithful := faithful_run registry sink store turns actions
    have sent := faithful.sent
    rw [Chronicle.relay_run] at sent
    exact faithful.inOrder.nodup.sublist sent
  · exact untouching_run sink store here fails before
  · subst own
    rw [run_append]
    rw [← run_turns _ before] at here
    rw [← run_registry _ before] at fails
    exact (guarded.run before).step_refused here fails
  · intro before between call t converter j t' sent here session provider request loads quiet
      acquires
    have history : ((start registry sink store turns).run (before ++ between)).store.history
        t.session = ((start registry sink store turns).run before).store.history t.session := by
      rw [run_run] at quiet ⊢
      refine (guarded.run before).history_kept between ?_
      rwa [run_turns]
    rw [← run_turns _ (before ++ between)] at here
    obtain ⟨u, c, locks, there, arrives, _⟩ := exists_arrives acquires
    cases here.symm.trans there
    have inside := guarded.run (before ++ between)
    have passes := arrives.checked inside here
    have made := inside.calls_of_acquires here passes acquires loads
    rw [run_registry] at passes
    rw [run_append, made, callOf_eq_sent sent passes session provider request history]

end Relay
end ChatRelay
