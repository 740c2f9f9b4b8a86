import ChatRelay.Proofs.Relay.Atomicity

/-!
# A session's account of a run

What a run does for one session can be told from its turns alone, in the order in which they are let
in: the calls for the session, how its turns end, and the history after each of them. Nothing that a
run does for other sessions comes into it.
-/
namespace ChatRelay.Relay

/-- Whether nothing has happened yet. -/
def AtRest (s : Relay) : Prop := s = start s.registry s.sink s.store s.turns

/-- The turns of a session that a run lets in, in this order. -/
def entered (s : Relay) (actions : List Action) (id : String) : List Nat :=
  (Chronicle.run s actions).acquired.filter (isOf s.turns id)

def sessionCalls (s : Relay) (id : String) : List VendorCall :=
  s.calls.filter fun call => isOf s.turns id call.turn

/-- How a turn ends that is not dropped. -/
def verdict (registry : Registry) (t : Turn) : Except RelayError Response :=
  match check registry t with
  | .error e => .error e
  | .ok c =>
    match t.loadError with
    | some reason => .error (.session reason)
    | none => outcome t c

/-- The call of a turn that is let in, if it makes one. -/
def callsWith (registry : Registry) (turns : List Turn) (history : List Item) (i : Nat) :
    List VendorCall :=
  match turns[i]? with
  | none => []
  | some t =>
    match check registry t, t.loadError with
    | .ok c, none =>
      [⟨i, t.provider, c.converter.payloadOfItems (history ++ c.items) t.request⟩]
    | _, _ => []

/-- The calls of turns that are let in one after another, each of which adds something to the
history before the next one is let in. -/
def script (registry : Registry) (turns : List Turn) (added : Nat → List Item) :
    List Item → List Nat → List VendorCall
  | _, [] => []
  | history, i :: rest =>
    callsWith registry turns history i ++ script registry turns added (history ++ added i) rest

theorem script_append_singleton (registry : Registry) (turns : List Turn)
    (added : Nat → List Item) (history : List Item) (before : List Nat) (i : Nat) :
    script registry turns added history (before ++ [i]) =
      script registry turns added history before ++
        callsWith registry turns (history ++ before.flatMap added) i := by
  induction before generalizing history with
  | nil => simp [script]
  | cons j rest ih => simp [script, ih, List.flatMap_cons]

variable {s : Relay} {actions before : List Action} {a : Action} {id : String} {i : Nat} {t : Turn}

/-- The way out of a turn that has ended is what its circumstances decide. -/
theorem Exit.eq_verdict {registry : Registry} {result : Except RelayError Response}
    (exit : Exit registry t result) : result = verdict registry t := by
  unfold verdict
  cases exit with
  | unknownProvider unknown => simp [check, Registry.get, unknown, bind, Except.bind]
  | invalidInput known fails => simp [check, Registry.get, known, fails, bind, Except.bind]
  | unloaded passes fails => simp [passes, fails]
  | unanswered passes loads fails => simp [passes, loads, outcome, reading, fails, Except.bind]
  | undecodable passes loads replies fails =>
    simp [passes, loads, outcome, reading, replies, Converter.response, fails, Except.bind]
  | failed passes loads decodes fails =>
    simp [passes, loads, outcome, decodes, Except.bind, closing, fails]
  | unrecorded passes loads decodes complete fails =>
    simp [passes, loads, outcome, decodes, Except.bind, closing, complete, fails]
  | recorded passes loads decodes complete records =>
    simp [passes, loads, outcome, decodes, Except.bind, closing, complete, records]

theorem AtRest.faithful (rest : s.AtRest) (actions : List Action) :
    (Chronicle.run s actions).Faithful s := by
  rw [rest]
  exact faithful_run _ _ _ _ actions

theorem AtRest.guarded (rest : s.AtRest) (actions : List Action) : (s.run actions).Guarded := by
  rw [← Chronicle.relay_run]
  exact (rest.faithful actions).guarded

theorem AtRest.inOrder (rest : s.AtRest) (actions : List Action) :
    InOrder s.turns s.store (s.run actions).phase (s.run actions).store
      (Chronicle.run s actions).acquired (Chronicle.run s actions).recorded := by
  rw [← Chronicle.relay_run]
  exact (rest.faithful actions).inOrder

/-- How a turn has ended depends on the turn and the registry only. -/
theorem AtRest.eq_verdict (rest : s.AtRest) (here : s.turns[i]? = some t)
    {result : Except RelayError Response} (ended : (s.run actions).phase i = .ended result) :
    result = verdict s.registry t := by
  have accounted : (s.run actions).Accounted := by
    rw [rest]
    exact accounted_run _ _ _ _ actions
  obtain ⟨u, there, exit⟩ := accounted.exits ended
  rw [run_turns] at there
  cases here.symm.trans there
  rw [run_registry] at exit
  exact exit.eq_verdict

theorem entered_append (s : Relay) (actions : List Action) (a : Action) (id : String) :
    entered s (actions ++ [a]) id =
      entered s actions id ++ ((s.run actions).acquiredBy a).filter (isOf s.turns id) := by
  rw [entered, Chronicle.run_append, Chronicle.step, Chronicle.relay_run, List.filter_append]
  rfl

/-- A longer run lets in the same turns first. -/
theorem entered_prefix (earlier : before <+: actions) (id : String) :
    entered s before id <+: entered s actions id := by
  obtain ⟨rest, rfl⟩ := earlier
  induction rest using List.reverseRecOn with
  | nil => simp
  | append_singleton rest a ih =>
    rw [← List.append_assoc, entered_append]
    exact ih.trans (List.prefix_append _ _)

/-- Once a turn of a session is let in, those let in before it are over. -/
theorem AtRest.finished_of_acquires (rest : s.AtRest) (acquires : (s.run before).acquires i = true)
    (ofId : isOf s.turns id i = true) {j : Nat} (member : j ∈ entered s before id) :
    ((s.run before).phase j).isLive = false := by
  obtain ⟨acquired, ofId'⟩ := List.mem_filter.1 member
  obtain ⟨t, c, locks, here, arrives, owns⟩ := exists_arrives acquires
  obtain ⟨notReady, notQueued⟩ := (rest.inOrder before).entered j acquired
  cases phase : (s.run before).phase j with
  | ready => exact absurd phase notReady
  | queued c => exact absurd phase (notQueued c)
  | calling c left =>
    have outside := (rest.guarded before).alone here arrives owns phase (by rwa [run_turns])
    rw [run_turns, ofId] at outside
    cases outside
  | ended result => rfl
  | cancelled => rfl

theorem contribution_of_not_recorded {turns : List Turn} {phase : Nat → Phase}
    (incomplete : isRecorded phase i = false) : contribution turns phase i = [] := by
  rw [isRecorded, Option.isSome_eq_false_iff, Option.isNone_iff_eq_none] at incomplete
  unfold contribution
  rw [incomplete]
  cases turns[i]? <;> rfl

/-- Only recorded turns add to a history. -/
theorem flatMap_filter_isRecorded (turns : List Turn) (phase : Nat → Phase) (ids : List Nat) :
    (ids.filter (isRecorded phase)).flatMap (contribution turns phase) =
      ids.flatMap (contribution turns phase) := by
  induction ids with
  | nil => rfl
  | cons i ids ih =>
    cases recorded : isRecorded phase i with
    | true => rw [List.filter_cons_of_pos recorded, List.flatMap_cons, List.flatMap_cons, ih]
    | false =>
      rw [List.filter_cons_of_neg (Bool.eq_false_iff.1 recorded), List.flatMap_cons,
        contribution_of_not_recorded recorded, ih, List.nil_append]

/-- The history of a session is what the turns let in have added to it. -/
theorem AtRest.history_eq (rest : s.AtRest) (actions : List Action) (id : String) :
    (s.run actions).store.history id = s.store.history id ++
      (entered s actions id).flatMap (contribution s.turns (s.run actions).phase) := by
  have inOrder := rest.inOrder actions
  rw [inOrder.history, inOrder.order, flatMap_filter_isRecorded, entered]

/-- While the turns let in are over, the history is what they have added to it in the end. -/
theorem AtRest.history_of_finished (rest : s.AtRest) (earlier : before <+: actions)
    (finished : ∀ j ∈ entered s before id, ((s.run before).phase j).isLive = false) :
    (s.run before).store.history id = s.store.history id ++
      (entered s before id).flatMap (contribution s.turns (s.run actions).phase) := by
  rw [rest.history_eq before id]
  congr 1
  refine List.flatMap_congr fun j member => ?_
  have kept := run_phase_of_prefix earlier (finished j member)
  unfold contribution
  rw [kept]

theorem acquiredBy_cases (s : Relay) (a : Action) :
    s.acquiredBy a = [] ∨ ∃ i, a = .poll i ∧ s.acquires i = true := by
  cases a with
  | cancel i => exact .inl rfl
  | poll i =>
    cases acquires : s.acquires i with
    | true => exact .inr ⟨i, rfl, acquires⟩
    | false => exact .inl (acquiredBy_poll_of_not acquires)

/-- An action that lets no turn in makes no call. -/
theorem Guarded.step_calls_of_none (guarded : s.Guarded) (none : s.acquiredBy a = []) :
    (s.step a).calls = s.calls := by
  rcases guarded.step_calls a with same | ⟨i, t, c, rfl, here, acquires, passes, called⟩
  · exact same
  · rw [acquiredBy_poll acquires] at none
    cases none

/-- A turn whose history cannot be loaded makes no call. -/
theorem step_calls_of_unloaded (here : s.turns[i]? = some t) {reason : String}
    (fails : t.loadError = some reason) : (s.step (.poll i)).calls = s.calls := by
  rcases step_cases s (.poll i) with ⟨same, _⟩ | ⟨j, u, there, moves⟩
  · rw [same]
  have same : i = j := moves.turn_live.1
  subst same
  cases here.symm.trans there
  generalize s.step (.poll i) = s' at moves
  cases moves with
  | calls arrives owns loads delays => exact nomatch fails.symm.trans loads
  | callsAndEnds arrives owns loads prompt => exact nomatch fails.symm.trans loads
  | _ => rfl

theorem Guarded.step_calls_of_acquires (guarded : s.Guarded) (here : s.turns[i]? = some t)
    (acquires : s.acquires i = true) :
    (s.step (.poll i)).calls =
      s.calls ++ callsWith s.registry s.turns (s.store.history t.session) i := by
  obtain ⟨u, c, locks, there, arrives, _⟩ := exists_arrives acquires
  cases here.symm.trans there
  have passes := arrives.checked guarded here
  unfold callsWith
  cases loads : t.loadError with
  | none =>
    rw [guarded.calls_of_acquires here passes acquires loads]
    simp only [here, passes, loads, callOf]
  | some reason =>
    rw [step_calls_of_unloaded here loads]
    simp only [here, passes, loads, List.append_nil]

/-- The calls of a turn are calls for its session. -/
theorem filter_callsWith (registry : Registry) (turns : List Turn) (history : List Item) (i : Nat)
    (id : String) :
    (callsWith registry turns history i).filter (fun call => isOf turns id call.turn) =
      if isOf turns id i then callsWith registry turns history i else [] := by
  have own (call : VendorCall) (member : call ∈ callsWith registry turns history i) :
      call.turn = i := by
    unfold callsWith at member
    split at member
    · cases member
    · split at member
      · rw [List.mem_singleton.1 member]
      · cases member
  cases ofId : isOf turns id i with
  | true =>
    rw [if_pos rfl, List.filter_eq_self]
    exact fun call member => own call member ▸ ofId
  | false =>
    rw [if_neg Bool.false_ne_true, List.filter_eq_nil_iff]
    exact fun call member => own call member ▸ Bool.eq_false_iff.1 ofId

/-- The calls for a session are those of the turns let in, each with what the turns before it add in
the end. -/
theorem AtRest.sessionCalls_eq (rest : s.AtRest) (earlier : before <+: actions) (id : String) :
    (s.run before).sessionCalls id =
      script s.registry s.turns (contribution s.turns (s.run actions).phase) (s.store.history id)
        (entered s before id) := by
  induction before using List.reverseRecOn with
  | nil =>
    rw [rest]
    rfl
  | append_singleton before a ih =>
    have within := (List.prefix_append before [a]).trans earlier
    have guarded := rest.guarded before
    have calls := ih within
    unfold Relay.sessionCalls at calls ⊢
    rw [run_turns] at calls ⊢
    rw [entered_append, run_append]
    rcases acquiredBy_cases (s.run before) a with none | ⟨i, rfl, acquires⟩
    · rw [guarded.step_calls_of_none none, none, calls, List.filter_nil, List.append_nil]
    · obtain ⟨t, _, _, here, _, _⟩ := exists_arrives acquires
      rw [guarded.step_calls_of_acquires here acquires, acquiredBy_poll acquires, run_registry,
        run_turns, List.filter_append, filter_callsWith, calls, List.filter_singleton]
      rw [run_turns] at here
      cases ofId : isOf s.turns id i with
      | true =>
        rw [(isOf_here here).1 ofId, if_pos rfl, cond_true, script_append_singleton,
          rest.history_of_finished within fun j => rest.finished_of_acquires acquires ofId]
      | false => rw [if_neg Bool.false_ne_true, cond_false, List.append_nil, List.append_nil]

/-- The action of a run by which a turn ends or is dropped. -/
structure Concludes (s : Relay) (actions : List Action) (i : Nat) (before : List Action)
    (a : Action) : Prop where
  reached : before ++ [a] <+: actions
  live : ((s.run before).phase i).isLive = true
  finished : ((s.run (before ++ [a])).phase i).isLive = false

/-- A turn that is no longer under way was ended by one action of the run. -/
theorem AtRest.exists_concludes (rest : s.AtRest)
    (finished : ((s.run actions).phase i).isLive = false) :
    ∃ before a, Concludes s actions i before a := by
  induction actions using List.reverseRecOn with
  | nil =>
    rw [rest] at finished
    cases finished
  | append_singleton before a ih =>
    cases live : ((s.run before).phase i).isLive with
    | true => exact ⟨before, a, List.prefix_rfl, live, finished⟩
    | false =>
      obtain ⟨before', a', concludes⟩ := ih live
      exact ⟨before', a', concludes.reached.trans (List.prefix_append before [a]),
        concludes.live, concludes.finished⟩

/-- A turn that is over is not let in any more. -/
theorem mem_acquired_of_finished (earlier : before <+: actions)
    (finished : ((s.run before).phase i).isLive = false)
    (member : i ∈ (Chronicle.run s actions).acquired) :
    i ∈ (Chronicle.run s before).acquired := by
  obtain ⟨more, rfl⟩ := earlier
  induction more using List.reverseRecOn with
  | nil => rwa [List.append_nil] at member
  | append_singleton more a ih =>
    rw [← List.append_assoc, Chronicle.run_append, Chronicle.step, Chronicle.relay_run] at member
    rcases List.mem_append.1 member with earlier | now
    · exact ih earlier
    · rcases acquiredBy_cases (s.run (before ++ more)) a with none | ⟨j, rfl, acquires⟩
      · rw [none] at now
        cases now
      · rw [acquiredBy_poll acquires, List.mem_singleton] at now
        subst now
        obtain ⟨_, _, _, _, arrives, _⟩ := exists_arrives acquires
        have kept := run_phase_of_prefix (List.prefix_append before more) finished
        have live := arrives.live
        rw [kept, finished] at live
        cases live

/-- A turn that is let in and under way waits for the vendor, and was let in last. -/
theorem AtRest.last_of_live (rest : s.AtRest) (member : i ∈ entered s actions id)
    (live : ((s.run actions).phase i).isLive = true) :
    (entered s actions id).getLast? = some i := by
  obtain ⟨acquired, ofId⟩ := List.mem_filter.1 member
  have inOrder := rest.inOrder actions
  obtain ⟨notReady, notQueued⟩ := inOrder.entered i acquired
  cases phase : (s.run actions).phase i with
  | ready => exact absurd phase notReady
  | queued c => exact absurd phase (notQueued c)
  | calling c left => exact inOrder.last phase ofId
  | _ => rw [phase] at live; cases live

/-- When a turn that was let in ends, it is the one let in last. -/
theorem AtRest.last_of_concludes (rest : s.AtRest) (concludes : Concludes s actions i before a)
    (member : i ∈ entered s actions id) :
    (entered s (before ++ [a]) id).getLast? = some i := by
  obtain ⟨acquired, ofId⟩ := List.mem_filter.1 member
  have now := mem_acquired_of_finished concludes.reached concludes.finished acquired
  rw [Chronicle.run_append, Chronicle.step, Chronicle.relay_run] at now
  rw [entered_append]
  rcases acquiredBy_cases (s.run before) a with none | ⟨j, rfl, acquires⟩
  · rw [none, List.append_nil] at now
    rw [none, List.filter_nil, List.append_nil]
    exact rest.last_of_live (List.mem_filter.2 ⟨now, ofId⟩) concludes.live
  · rw [acquiredBy_poll acquires] at now ⊢
    rcases List.mem_append.1 now with earlier | same
    · have member := List.mem_filter.2 ⟨earlier, ofId⟩
      cases ofId' : isOf s.turns id j with
      | true =>
        have finished := rest.finished_of_acquires acquires ofId' member
        rw [concludes.live] at finished
        cases finished
      | false =>
        rw [List.filter_singleton, ofId', cond_false, List.append_nil]
        exact rest.last_of_live member concludes.live
    · rw [List.mem_singleton] at same
      subst same
      rw [List.filter_singleton, ofId, cond_true, List.getLast?_append, List.getLast?_singleton,
        Option.some_or]

/-- What the turns up to one have added to the history when it ends. -/
theorem AtRest.history_of_concludes (rest : s.AtRest) (concludes : Concludes s actions i before a)
    {earlier later : List Nat} (split : entered s actions id = earlier ++ i :: later) :
    (s.run (before ++ [a])).store.history id = s.store.history id ++
      (earlier ++ [i]).flatMap (contribution s.turns (s.run actions).phase) := by
  have member : i ∈ entered s actions id := split ▸ List.mem_append_cons_self
  have last := rest.last_of_concludes concludes member
  have finished (j : Nat) (within : j ∈ entered s (before ++ [a]) id) :
      ((s.run (before ++ [a])).phase j).isLive = false := by
    cases live : ((s.run (before ++ [a])).phase j).isLive with
    | false => rfl
    | true =>
      cases last.symm.trans (rest.last_of_live within live)
      exact live.symm.trans concludes.finished
  obtain ⟨earlier', last⟩ := List.getLast?_eq_some_iff.1 last
  obtain ⟨later', grows⟩ := entered_prefix (s := s) concludes.reached id
  rw [last, split, List.append_assoc, List.singleton_append] at grows
  -- the turn stands in the list once, since no turn is let in twice
  have nodup : (earlier ++ i :: later).Nodup := split ▸ (rest.inOrder actions).nodup.filter _
  have once : i ∉ earlier ++ later := (List.nodup_cons.1 (List.nodup_middle.1 nodup)).1
  rw [List.mem_append, not_or] at once
  obtain ⟨rfl, _, _⟩ := (List.append_cons_inj_of_notMem once.1 once.2).1 grows.symm
  rw [rest.history_of_finished concludes.reached finished, last]

end ChatRelay.Relay
