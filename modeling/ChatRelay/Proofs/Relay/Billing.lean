import ChatRelay.Proofs.Relay.Account

/-!
# Usage reports

Usage is reported where a reply has been read, before it is known whether the turn can be recorded.
`decodings` lists the replies that a run reads, in their order; each is reported once, and these are
all the reports there are. Where reports go has no part in anything else that the relay does.
-/
namespace ChatRelay.Relay

/-- A vendor's reply that has been read, with its turn. -/
structure Decoding where
  index : Nat
  turn : Turn
  response : Response

def Decoding.report (d : Decoding) : UsageReport :=
  ⟨d.response.model, d.turn.provider, d.turn.session, d.response.usage⟩

/-- The reply to a turn, if it can be read. -/
def decodingOf (i : Nat) (t : Turn) (c : CheckedTurn) : List Decoding :=
  match reading t c with
  | .ok r => [⟨i, t, r⟩]
  | .error _ => []

/-- A turn that takes its vendor's answer when it is polled now: it has waited long enough, or it is
let in and the vendor answers at once. -/
def answering (s : Relay) (i : Nat) (t : Turn) : Option CheckedTurn :=
  match s.phase i, check s.registry t with
  | .calling c left, _ => if left ≤ 1 then some c else none
  | _, .ok c => if s.acquires i ∧ t.loadError = none ∧ t.delay = 0 then some c else none
  | _, .error _ => none

/-- The reply that an action reads, if it does. -/
def decodedBy (s : Relay) : Action → List Decoding
  | .poll i =>
    match s.turns[i]? with
    | some t => ((s.answering i t).map (decodingOf i t)).getD []
    | none => []
  | .cancel _ => []

def decodings (s : Relay) : List Action → List Decoding
  | [] => []
  | a :: rest => s.decodedBy a ++ decodings (s.step a) rest

/-- The response that a turn comes to have if it is not dropped. -/
def answer (registry : Registry) (t : Turn) : Option Response :=
  match check registry t, t.loadError with
  | .ok c, none => (reading t c).toOption
  | _, _ => none

/-- The turn has ended, and the reply to it could be read. -/
structure Decoding.Done (s : Relay) (d : Decoding) : Prop where
  here : s.turns[d.index]? = some d.turn
  answers : answer s.registry d.turn = some d.response
  ended : ∃ result, s.phase d.index = .ended result

variable {s s' : Relay} {i : Nat} {t : Turn} {c : CheckedTurn} {a : Action}

theorem decodings_append (s : Relay) (actions : List Action) (a : Action) :
    decodings s (actions ++ [a]) = decodings s actions ++ (s.run actions).decodedBy a := by
  induction actions generalizing s with
  | nil => simp [decodings, run]
  | cons b rest ih =>
    rw [List.cons_append, decodings, ih, decodings, List.append_assoc]
    rfl

theorem decodedBy_poll (here : s.turns[i]? = some t) :
    s.decodedBy (.poll i) = ((s.answering i t).map (decodingOf i t)).getD [] := by
  rw [decodedBy, here]

theorem answer_of_check_error {registry : Registry} {e : RelayError}
    (fails : check registry t = .error e) : answer registry t = none := by
  rw [answer, fails]

theorem answer_of_loadError {registry : Registry} {reason : String}
    (fails : t.loadError = some reason) : answer registry t = none := by
  rw [answer, fails]
  cases check registry t <;> rfl

theorem answer_eq_some {registry : Registry} {r : Response} :
    answer registry t = some r ↔
      ∃ c, check registry t = .ok c ∧ t.loadError = none ∧ reading t c = .ok r := by
  unfold answer
  cases passes : check registry t with
  | error e => simp
  | ok c =>
    cases loads : t.loadError with
    | some reason => simp
    | none => cases read : reading t c <;> simp [Except.toOption, read]

theorem mem_decodingOf {registry : Registry} (passes : check registry t = .ok c)
    (loads : t.loadError = none) {d : Decoding} :
    d ∈ decodingOf i t c ↔ d.index = i ∧ d.turn = t ∧ answer registry t = some d.response := by
  have answers : answer registry t = (reading t c).toOption := by rw [answer, passes, loads]
  obtain ⟨j, u, r⟩ := d
  rw [answers, decodingOf]
  cases reading t c with
  | ok r' => simp [Except.toOption, eq_comm]
  | error e => simp [Except.toOption]

/-- A turn that arrives takes the answer at once if it is let in, loads its history and need not
wait. -/
theorem Arrives.answering_eq {locks : LockTable} (arrives : Arrives s i t c locks)
    (guarded : s.Guarded) (here : s.turns[i]? = some t) :
    s.answering i t =
      if locks.isOwner i t.session ∧ t.loadError = none ∧ t.delay = 0 then some c else none := by
  rw [answering, arrives.checked guarded here, arrives.acquires_eq here]
  rcases arrives.outside with ready | ⟨c', queued⟩
  · rw [ready]
  · rw [queued]

/-- What a step has to do with replies: it reads none, and if it ends the turn then there is none to
be read; or it takes the answer, reports it if it can be read, and ends the turn. -/
theorem Transition.decodedBy_cases (moves : Transition s i t a s') (guarded : s.Guarded)
    (accounted : s.Accounted) (here : s.turns[i]? = some t) :
    s.decodedBy a = [] ∧ s'.reports = s.reports ∧
        (∀ result, s'.phase i = .ended result → answer s.registry t = none) ∨
      ∃ c, check s.registry t = .ok c ∧ t.loadError = none ∧ s.decodedBy a = decodingOf i t c ∧
        s'.reports = s.reports ++ reportsOf s.sink t (reading t c) ∧
        s'.phase i = .ended (outcome t c) := by
  cases moves with
  | refused ready fails =>
    refine .inl ⟨?_, rfl, fun _ _ => answer_of_check_error fails⟩
    rw [decodedBy_poll here, answering, ready, fails]
    rfl
  | waits arrives behind =>
    refine .inl ⟨?_, rfl, fun result ended => ?_⟩
    · rw [decodedBy_poll here, arrives.answering_eq guarded here, behind]
      rfl
    · simp at ended
  | unloaded arrives owns fails =>
    refine .inl ⟨?_, rfl, fun _ _ => answer_of_loadError fails⟩
    rw [decodedBy_poll here, arrives.answering_eq guarded here, fails]
    simp
  | calls arrives owns loads delays =>
    refine .inl ⟨?_, rfl, fun result ended => ?_⟩
    · rw [decodedBy_poll here, arrives.answering_eq guarded here, if_neg fun due => delays due.2.2]
      rfl
    · simp at ended
  | callsAndEnds arrives owns loads prompt =>
    refine .inr ⟨_, arrives.checked guarded here, loads, ?_, rfl, Function.update_self _ _ _⟩
    rw [decodedBy_poll here, arrives.answering_eq guarded here, if_pos ⟨owns, loads, prompt⟩]
    rfl
  | @stays c left calling =>
    refine .inl ⟨?_, rfl, fun result ended => ?_⟩
    · have early : ¬ left + 2 ≤ 1 := by omega
      rw [decodedBy_poll here, answering, calling]
      simp only [if_neg early]
      rfl
    · simp at ended
  | ends calling due =>
    have passes := guarded.checked here (.inr ⟨_, calling⟩)
    refine .inr ⟨_, passes, accounted.loaded here calling, ?_, rfl, Function.update_self _ _ _⟩
    rw [decodedBy_poll here, answering, calling]
    simp only [if_pos due]
    rfl
  | droppedFresh ready => exact .inl ⟨rfl, rfl, fun result ended => by simp at ended⟩
  | dropped waits => exact .inl ⟨rfl, rfl, fun result ended => by simp at ended⟩

/-- Nothing is read for a turn that has ended or been dropped. -/
theorem decodedBy_of_still
    (still : ∀ t, s.turns[a.turn]? = some t → (s.phase a.turn).isLive = false) :
    s.decodedBy a = [] := by
  cases a with
  | cancel i => rfl
  | poll i =>
    cases here : s.turns[i]? with
    | none => rw [decodedBy, here]
    | some t =>
      have finished : (s.phase i).isLive = false := still t here
      have out : s.acquires i = false := by
        cases phase : s.phase i with
        | ready => rw [phase] at finished; cases finished
        | queued c => rw [phase] at finished; cases finished
        | _ => simp only [acquires, here, phase]
      rw [decodedBy_poll here, answering, out]
      cases phase : s.phase i with
      | calling c left => rw [phase] at finished; cases finished
      | _ => cases check s.registry t <;> rfl

theorem Decoding.done_iff_of_turn (here : s.turns[i]? = some t) {d : Decoding}
    (own : d.index = i) : d.Done s ↔
      d.turn = t ∧ answer s.registry t = some d.response ∧ ∃ result, s.phase i = .ended result := by
  subst own
  constructor
  · rintro ⟨there, answers, ended⟩
    cases there.symm.trans here
    exact ⟨rfl, answers, ended⟩
  · rintro ⟨rfl, answers, ended⟩
    exact ⟨here, answers, ended⟩

/-- What an action reads is the reply to its own turn, which is under way. -/
theorem index_of_mem_decodedBy (guarded : s.Guarded) (accounted : s.Accounted) {d : Decoding}
    (reads : d ∈ s.decodedBy a) : d.index = a.turn ∧ (s.phase a.turn).isLive = true := by
  rcases step_cases s a with ⟨-, still⟩ | ⟨i, t, here, moves⟩
  · rw [decodedBy_of_still still] at reads
    cases reads
  obtain ⟨rfl, live⟩ := moves.turn_live
  rcases moves.decodedBy_cases guarded accounted here with
    ⟨nothing, -, -⟩ | ⟨c, passes, loads, read, -, -⟩
  · rw [nothing] at reads
    cases reads
  · rw [read, mem_decodingOf passes loads] at reads
    exact ⟨reads.1, live⟩

/-- A reply has come to its turn exactly if it had before or if this action reads it. -/
theorem Decoding.done_step (guarded : s.Guarded) (accounted : s.Accounted) (a : Action)
    (d : Decoding) : d.Done (s.step a) ↔ d.Done s ∨ d ∈ s.decodedBy a := by
  rcases step_cases s a with ⟨same, still⟩ | ⟨i, t, here, moves⟩
  · rw [same, decodedBy_of_still still]
    simp
  obtain ⟨rfl, live⟩ := moves.turn_live
  have here' : (s.step a).turns[a.turn]? = some t := by rwa [step_turns]
  by_cases own : d.index = a.turn
  · have pending : ¬ d.Done s := by
      rintro ⟨-, -, result, ended⟩
      rw [← own, ended] at live
      cases live
    rw [done_iff_of_turn here' own, step_registry]
    rcases moves.decodedBy_cases guarded accounted here with
      ⟨nothing, -, unread⟩ | ⟨c, passes, loads, reads, -, ends⟩
    · rw [nothing]
      simp only [pending, List.not_mem_nil, or_self, iff_false]
      rintro ⟨-, answers, result, ended⟩
      rw [unread result ended] at answers
      cases answers
    · rw [reads, mem_decodingOf passes loads]
      simp only [pending, own, false_or, true_and]
      exact ⟨fun done => ⟨done.1, done.2.1⟩, fun read => ⟨read.1, read.2, _, ends⟩⟩
  · have elsewhere : d ∉ s.decodedBy a := fun reads =>
      own (index_of_mem_decodedBy guarded accounted reads).1
    have kept : (s.step a).phase d.index = s.phase d.index := step_phase_of_ne own
    simp only [elsewhere, or_false]
    constructor
    · rintro ⟨there, answers, ended⟩
      rw [step_turns] at there
      rw [step_registry] at answers
      rw [kept] at ended
      exact ⟨there, answers, ended⟩
    · rintro ⟨there, answers, ended⟩
      exact ⟨by rwa [step_turns], by rwa [step_registry], by rwa [kept]⟩

/-- An action reads one reply at most. -/
theorem nodup_decodedBy (s : Relay) (a : Action) :
    ((s.decodedBy a).map Decoding.index).Nodup := by
  cases a with
  | cancel i => exact .nil
  | poll i =>
    cases here : s.turns[i]? with
    | none => simp [decodedBy, here]
    | some t =>
      rw [decodedBy_poll here]
      cases s.answering i t with
      | none => exact .nil
      | some c =>
        simp only [Option.map_some, Option.getD_some, decodingOf]
        cases reading t c with
        | ok r => exact List.nodup_singleton i
        | error e => exact .nil

/-- A step reports the replies that it reads, and only if someone attends to the reports. -/
theorem Guarded.step_reports (guarded : s.Guarded) (accounted : s.Accounted) (a : Action) :
    (s.step a).reports =
      s.reports ++ if s.sink = .attended then (s.decodedBy a).map Decoding.report else [] := by
  rcases step_cases s a with ⟨same, still⟩ | ⟨i, t, here, moves⟩
  · rw [same, decodedBy_of_still still]
    simp
  rcases moves.decodedBy_cases guarded accounted here with
    ⟨nothing, quiet, -⟩ | ⟨c, passes, loads, reads, reports, -⟩
  · rw [nothing, quiet]
    simp
  · rw [reads, reports, decodingOf]
    cases reading t c with
    | ok r => rfl
    | error e => simp [reportsOf]

theorem AtRest.accounted (rest : s.AtRest) (actions : List Action) :
    (s.run actions).Accounted := by
  rw [rest]
  exact accounted_run _ _ _ _ actions

/-- The replies read in a run are those of the turns that have ended, where they can be read. -/
theorem AtRest.mem_decodings (rest : s.AtRest) (actions : List Action) {d : Decoding} :
    d ∈ decodings s actions ↔ d.Done (s.run actions) := by
  induction actions using List.reverseRecOn with
  | nil =>
    simp only [decodings, List.not_mem_nil, false_iff]
    rintro ⟨-, -, result, ended⟩
    rw [rest] at ended
    cases ended
  | append_singleton before a ih =>
    rw [decodings_append, List.mem_append, ih, run_append,
      Decoding.done_step (rest.guarded before) (rest.accounted before)]

/-- The replies read are those that can be, to turns that pass their checks, find their history and
have ended. -/
theorem AtRest.mem_decodings_iff (rest : s.AtRest) (actions : List Action) {d : Decoding} :
    d ∈ decodings s actions ↔ s.turns[d.index]? = some d.turn ∧
      (∃ c, check s.registry d.turn = .ok c ∧ d.turn.loadError = none ∧
        reading d.turn c = .ok d.response) ∧
      ∃ result, (s.run actions).phase d.index = .ended result := by
  rw [rest.mem_decodings actions]
  constructor
  · rintro ⟨here, answers, ended⟩
    rw [run_turns] at here
    rw [run_registry] at answers
    exact ⟨here, answer_eq_some.1 answers, ended⟩
  · rintro ⟨here, answers, ended⟩
    exact ⟨by rwa [run_turns], by rw [run_registry]; exact answer_eq_some.2 answers, ended⟩

/-- No turn's reply is read twice. -/
theorem AtRest.nodup_decodings (rest : s.AtRest) (actions : List Action) :
    ((decodings s actions).map Decoding.index).Nodup := by
  induction actions using List.reverseRecOn with
  | nil => exact .nil
  | append_singleton before a ih =>
    rw [decodings_append, List.map_append]
    refine List.nodup_append.2 ⟨ih, nodup_decodedBy _ _, ?_⟩
    rintro i old j new rfl
    obtain ⟨d, read, rfl⟩ := List.mem_map.1 old
    obtain ⟨d', reads, same⟩ := List.mem_map.1 new
    -- the turn of the earlier reply is over, that of the new one is not
    obtain ⟨result, ended⟩ := ((rest.mem_decodings before).1 read).ended
    obtain ⟨own, live⟩ :=
      index_of_mem_decodedBy (rest.guarded before) (rest.accounted before) reads
    rw [← own, same, ended] at live
    cases live

theorem step_sink (s : Relay) (a : Action) : (s.step a).sink = s.sink := by
  rcases step_cases s a with ⟨same, _⟩ | ⟨i, t, here, moves⟩
  · rw [same]
  · generalize s.step a = s' at moves
    cases moves <;> rfl

theorem run_sink (s : Relay) (actions : List Action) : (s.run actions).sink = s.sink := by
  induction actions using List.reverseRecOn with
  | nil => rfl
  | append_singleton rest a ih => rw [run_append, step_sink, ih]

/-- With a sink that is attended, the reports are those of the replies read. -/
theorem AtRest.reports_eq (rest : s.AtRest) (actions : List Action) :
    (s.run actions).reports =
      if s.sink = .attended then (decodings s actions).map Decoding.report else [] := by
  induction actions using List.reverseRecOn with
  | nil =>
    rw [rest]
    simp [decodings, run, start]
  | append_singleton before a ih =>
    rw [run_append, (rest.guarded before).step_reports (rest.accounted before), ih, run_sink,
      decodings_append, List.map_append]
    split <;> simp

/-- How a turn ends whose reply has been read: failed, unrecorded or recorded. -/
theorem AtRest.phase_of_mem_decodings (rest : s.AtRest) (actions : List Action) {d : Decoding}
    (read : d ∈ decodings s actions) :
    (s.run actions).phase d.index = .ended (closing d.turn d.response) := by
  obtain ⟨here, ⟨c, passes, loads, reads⟩, result, ended⟩ :=
    (rest.mem_decodings_iff actions).1 read
  rw [ended, rest.eq_verdict here ended, verdict, passes]
  simp only [loads, outcome, reads, Except.bind]

/-- A relay without its reports and what is noted of them. -/
def bare (s : Relay) : Relay := { s with sink := .absent, reports := [], events := [] }

theorem bare_receive (s : Relay) (i : Nat) (t : Turn) (c : CheckedTurn) :
    (s.receive i t c).bare = (s.bare.receive i t c).bare := by
  obtain ⟨_, received⟩ := receive_eq s i t c
  obtain ⟨_, received'⟩ := receive_eq s.bare i t c
  rw [received, received']
  rfl

theorem bare_enter (s : Relay) (i : Nat) (t : Turn) (c : CheckedTurn) :
    (s.enter i t c).bare = (s.bare.enter i t c).bare := by
  unfold enter
  cases t.loadError with
  | some reason => rfl
  | none =>
    cases t.delay with
    | zero =>
      change ((s.call i t c).receive i t c).bare = ((s.bare.call i t c).receive i t c).bare
      rw [bare_receive, bare_receive (s.bare.call i t c)]
      rfl
    | succ left => rfl

theorem bare_await (s : Relay) (i : Nat) (t : Turn) (c : CheckedTurn) :
    (s.await i t c).bare = (s.bare.await i t c).bare := by
  have locks : s.bare.locks = s.locks := rfl
  unfold await
  rw [locks]
  split
  · exact bare_enter s i t c
  · rfl

theorem bare_pollPhase (s : Relay) (i : Nat) (t : Turn) (p : Phase) :
    (s.pollPhase i t p).bare = (s.bare.pollPhase i t p).bare := by
  have registry : s.bare.registry = s.registry := rfl
  unfold pollPhase
  cases p with
  | ready =>
    rw [registry]
    cases check s.registry t with
    | error e => rfl
    | ok c => exact bare_await { s with locks := s.locks.take i t.session } i t c
  | queued c => exact bare_await s i t c
  | calling c left =>
    match left with
    | left + 2 => rfl
    | 1 => exact bare_receive s i t c
    | 0 => exact bare_receive s i t c
  | ended result => rfl
  | cancelled => rfl

/-- What a relay does apart from reports does not depend on where they go. -/
theorem bare_step (s : Relay) (a : Action) : (s.step a).bare = (s.bare.step a).bare := by
  have turns : s.bare.turns = s.turns := rfl
  have phase : s.bare.phase = s.phase := rfl
  cases a with
  | cancel i =>
    change (s.cancel i).bare = (s.bare.cancel i).bare
    unfold cancel
    rw [turns, phase]
    split <;> rfl
  | poll i =>
    change (s.poll i).bare = (s.bare.poll i).bare
    unfold poll
    rw [turns, phase]
    cases s.turns[i]? with
    | none => rfl
    | some t => exact bare_pollPhase s i t (s.phase i)

/-- Who attends to the reports makes no difference to the rest of a run. -/
theorem bare_run (s : Relay) (actions : List Action) :
    (s.run actions).bare = (s.bare.run actions).bare := by
  induction actions using List.reverseRecOn with
  | nil => rfl
  | append_singleton rest a ih =>
    rw [run_append, run_append, bare_step, ih, ← bare_step]

/-- Relays that differ in their sinks and reports only make the same calls, end their turns in the
same ways and record the same histories. -/
theorem run_of_bare (same : s'.bare = s.bare) (actions : List Action) :
    (s'.run actions).calls = (s.run actions).calls ∧
      (s'.run actions).phase = (s.run actions).phase ∧
      (s'.run actions).store = (s.run actions).store := by
  have runs : (s'.run actions).bare = (s.run actions).bare := by
    rw [bare_run, same, ← bare_run]
  have calls : (s'.run actions).bare.calls = (s.run actions).bare.calls := by rw [runs]
  have phase : (s'.run actions).bare.phase = (s.run actions).bare.phase := by rw [runs]
  have store : (s'.run actions).bare.store = (s.run actions).bare.store := by rw [runs]
  exact ⟨calls, phase, store⟩

/-- With an attended sink, whatever the turns and their order, the reports of a run are those of the
replies that it reads, in the order in which it reads them: one for each turn that ends after its
reply has been read, whether it has failed, could not be recorded or is recorded, and none for any
other turn. A run whose sink is abandoned or absent reports nothing and is otherwise the same: its
calls, the ways in which its turns end and the histories. -/
theorem usage_reported_once (registry : Registry) (store : Store) (turns : List Turn)
    (actions : List Action) :
    let s := start registry .attended store turns
    ((s.run actions).reports = (decodings s actions).map Decoding.report ∧
      ((decodings s actions).map Decoding.index).Nodup) ∧
    (∀ d : Decoding, d ∈ decodings s actions ↔
      turns[d.index]? = some d.turn ∧
        (∃ c, check registry d.turn = .ok c ∧ d.turn.loadError = none ∧
          reading d.turn c = .ok d.response) ∧
        ∃ result, (s.run actions).phase d.index = .ended result) ∧
    (∀ d ∈ decodings s actions,
      (s.run actions).phase d.index = .ended (closing d.turn d.response)) ∧
    ∀ sink, let s' := start registry sink store turns
      (s'.run actions).calls = (s.run actions).calls ∧
        (s'.run actions).phase = (s.run actions).phase ∧
        (s'.run actions).store = (s.run actions).store ∧
        (sink ≠ .attended → (s'.run actions).reports = []) := by
  intro s
  have rest : s.AtRest := rfl
  refine ⟨⟨rest.reports_eq actions, rest.nodup_decodings actions⟩,
    fun d => rest.mem_decodings_iff actions,
    fun d read => rest.phase_of_mem_decodings actions read, fun sink => ?_⟩
  intro s'
  have bare : s'.bare = s.bare := rfl
  obtain ⟨calls, phase, store⟩ := run_of_bare bare actions
  refine ⟨calls, phase, store, fun unattended => ?_⟩
  have rest' : s'.AtRest := rfl
  have other : s'.sink ≠ .attended := unattended
  rw [rest'.reports_eq, if_neg other]

/-- A turn that cannot be recorded and one that fails are reported when their replies come; one that
is dropped while its vendor is called, and one without a reply, are not. -/
example :
    let turn (session : String) (delay : Nat) (reply : Except String (List Letter))
        (appendError : Option String) : Turn :=
      ⟨session, "gemini", .ofInput (.str "hi"), "a", delay, reply, none, appendError⟩
    let s := start .standard .attended .empty [
      turn "slow" 2 (.ok (Letter.ofString "\x7b\x7d")) (some "disk full"),
      turn "failed" 1 (.ok (Letter.ofString "\x7b\"error\":1\x7d")) none,
      turn "dropped" 1 (.ok (Letter.ofString "\x7b\x7d")) none,
      turn "silent" 0 (.error "timed out") none]
    (s.run [.poll 0, .poll 1, .poll 2, .poll 3, .poll 1, .cancel 2, .poll 0, .poll 0]).reports.map
      UsageReport.session = ["failed", "slow"] := by
  decide +kernel

end ChatRelay.Relay
