import ChatRelay.Proofs.Relay.Chronicle

/-!
# How turns end

A turn that is not dropped ends in one of eight ways, each of which says how far the turn has come
and what it returns. Only in the last of them is it recorded.
-/
namespace ChatRelay.Relay

/-- The ways in which a turn ends, in the order in which they are met. -/
inductive Exit (registry : Registry) (t : Turn) : Except RelayError Response → Prop where
  | unknownProvider (unknown : registry.find? t.provider = none) :
      Exit registry t (.error (.unsupportedProvider t.provider))
  | invalidInput {converter : Converter} {fault : InputFault}
      (known : registry.find? t.provider = some converter)
      (fails : Input.parse t.request.input = .error fault) :
      Exit registry t (.error (.invalidInput fault.message))
  | unloaded {c : CheckedTurn} {reason : String} (passes : check registry t = .ok c)
      (fails : t.loadError = some reason) : Exit registry t (.error (.session reason))
  | unanswered {c : CheckedTurn} {reason : String} (passes : check registry t = .ok c)
      (loads : t.loadError = none) (fails : t.reply = .error reason) :
      Exit registry t (.error (.transport reason))
  | undecodable {c : CheckedTurn} {reply : List Letter} {fault : Json.TextFault}
      (passes : check registry t = .ok c) (loads : t.loadError = none)
      (replies : t.reply = .ok reply) (fails : Json.ofLetters reply = .error fault) :
      Exit registry t (.error (.undecodableReply c.converter.name fault))
  | failed {c : CheckedTurn} {r : Response} (passes : check registry t = .ok c)
      (loads : t.loadError = none) (decodes : reading t c = .ok r) (fails : r.status = .failed) :
      Exit registry t (.ok r)
  | unrecorded {c : CheckedTurn} {r : Response} {reason : String}
      (passes : check registry t = .ok c) (loads : t.loadError = none)
      (decodes : reading t c = .ok r) (complete : r.status = .completed)
      (fails : t.appendError = some reason) : Exit registry t (.error (.session reason))
  | recorded {c : CheckedTurn} {r : Response} (passes : check registry t = .ok c)
      (loads : t.loadError = none) (decodes : reading t c = .ok r)
      (complete : r.status = .completed) (records : t.appendError = none) :
      Exit registry t (.ok r)

variable {registry : Registry} {s s' : Relay} {i : Nat} {t : Turn} {c : CheckedTurn}

theorem exit_check {e : RelayError} (fails : check registry t = .error e) :
    Exit registry t (.error e) := by
  unfold check Registry.get at fails
  cases found : registry.find? t.provider with
  | none =>
    rw [found] at fails
    cases fails
    exact .unknownProvider found
  | some converter =>
    rw [found] at fails
    cases parsed : Input.parse t.request.input with
    | error fault =>
      simp only [bind, Except.bind, parsed, Except.error.injEq] at fails
      exact fails ▸ .invalidInput found parsed
    | ok items => simp [bind, Except.bind, parsed, pure, Except.pure] at fails

/-- A turn that takes the vendor's answer ends in one of the ways that come after the call. -/
theorem exit_outcome (passes : check registry t = .ok c) (loads : t.loadError = none) :
    Exit registry t (outcome t c) := by
  unfold outcome
  cases answer : reading t c with
  | error e =>
    rw [Except.bind]
    unfold reading Converter.response at answer
    cases replies : t.reply with
    | error reason =>
      simp only [replies, Except.error.injEq] at answer
      exact answer ▸ .unanswered passes loads replies
    | ok reply =>
      cases decoded : Json.ofLetters reply with
      | error fault =>
        simp only [replies, decoded, Except.error.injEq] at answer
        exact answer ▸ .undecodable passes loads replies decoded
      | ok body => simp [replies, decoded] at answer
  | ok r =>
    rw [Except.bind, closing]
    cases status : r.status with
    | failed => exact .failed passes loads answer status
    | completed =>
      cases records : t.appendError with
      | some reason => exact .unrecorded passes loads answer status records
      | none => exact .recorded passes loads answer status records

/-- Turns that wait for the vendor have loaded their histories, and turns that have ended have done
so in one of the ways. -/
structure Accounted (s : Relay) : Prop where
  loaded : ∀ {i t c left}, s.turns[i]? = some t → s.phase i = .calling c left → t.loadError = none
  exits : ∀ {i result}, s.phase i = .ended result →
    ∃ t, s.turns[i]? = some t ∧ Exit s.registry t result

/-- What is to be shown of a turn that has moved. -/
theorem Accounted.move (accounted : s.Accounted) (here : s.turns[i]? = some t) {p : Phase}
    (registry : s'.registry = s.registry) (turns : s'.turns = s.turns)
    (phase : s'.phase = Function.update s.phase i p)
    (loaded : ∀ c left, p = .calling c left → t.loadError = none)
    (exits : ∀ result, p = .ended result → Exit s.registry t result) : s'.Accounted := by
  refine ⟨fun {j u c left} there calling => ?_, fun {j result} ended => ?_⟩
  · rw [turns] at there
    rw [phase] at calling
    by_cases same : j = i
    · subst same
      rw [Function.update_self] at calling
      rw [here] at there
      cases there
      exact loaded c left calling
    · rw [Function.update_of_ne same] at calling
      exact accounted.loaded there calling
  · rw [turns, registry]
    rw [phase] at ended
    by_cases same : j = i
    · subst same
      rw [Function.update_self] at ended
      exact ⟨t, here, exits result ended⟩
    · rw [Function.update_of_ne same] at ended
      exact accounted.exits ended

/-- Each action leaves the phases of all turns accounted for. -/
theorem Accounted.step (accounted : s.Accounted) (guarded : s.Guarded) (a : Action) :
    (s.step a).Accounted := by
  rcases step_cases s a with ⟨same, _⟩ | ⟨i, t, here, moves⟩
  · rwa [same]
  generalize s.step a = s' at moves
  cases moves with
  | refused ready fails =>
    refine accounted.move here rfl rfl rfl (by simp) ?_
    rintro result ⟨⟩
    exact exit_check fails
  | waits arrives behind => exact accounted.move here rfl rfl rfl (by simp) (by simp)
  | unloaded arrives owns fails =>
    refine accounted.move here rfl rfl rfl (by simp) ?_
    rintro result ⟨⟩
    exact .unloaded (arrives.checked guarded here) fails
  | calls arrives owns loads delays =>
    exact accounted.move here rfl rfl rfl (fun _ _ _ => loads) (by simp)
  | callsAndEnds arrives owns loads prompt =>
    refine accounted.move here rfl rfl rfl (by simp) ?_
    rintro result ⟨⟩
    exact exit_outcome (arrives.checked guarded here) loads
  | stays calling =>
    exact accounted.move here rfl rfl rfl (fun _ _ _ => accounted.loaded here calling) (by simp)
  | ends calling due =>
    refine accounted.move here rfl rfl rfl (by simp) ?_
    rintro result ⟨⟩
    exact exit_outcome (guarded.checked here (.inr ⟨_, calling⟩)) (accounted.loaded here calling)
  | droppedFresh ready => exact accounted.move here rfl rfl rfl (by simp) (by simp)
  | dropped waits => exact accounted.move here rfl rfl rfl (by simp) (by simp)

theorem accounted_run (registry : Registry) (sink : UsageSink) (store : Store) (turns : List Turn)
    (actions : List Action) : ((start registry sink store turns).run actions).Accounted := by
  induction actions using List.reverseRecOn with
  | nil =>
    constructor
    · intro i t c left here calling
      cases calling
    · intro i result ended
      cases ended
  | append_singleton rest a ih =>
    rw [run_append]
    exact ih.step ((guarded_start registry sink store turns).run rest) a

end ChatRelay.Relay
