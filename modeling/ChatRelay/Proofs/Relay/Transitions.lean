import ChatRelay.Relay.Basic
import Mathlib.Logic.Function.Basic

/-!
# What an action may do

Every action either leaves the relay as it is or takes one turn one step further. This module says
once what such a step does to the store, the lock table, the phases, the calls and the reports; all
that is said about runs elsewhere rests on these cases.
-/
namespace ChatRelay

/-- The complete response that a turn has ended with. Such a turn has been recorded, since a turn
that cannot be recorded ends with an error. -/
def Phase.completion? : Phase → Option Response
  | .ended (.ok r) => if r.status = .completed then some r else none
  | _ => none

namespace Relay

def reading (t : Turn) (c : CheckedTurn) : Except RelayError Response :=
  match t.reply with
  | .error reason => .error (.transport reason)
  | .ok reply => c.converter.response t.freshId t.session reply

/-- How a turn ends that has a response: with an error only if it cannot be recorded. -/
def closing (t : Turn) (r : Response) : Except RelayError Response :=
  match r.status, t.appendError with
  | .completed, some reason => .error (.session reason)
  | _, _ => .ok r

/-- How a turn ends that takes the vendor's answer. -/
def outcome (t : Turn) (c : CheckedTurn) : Except RelayError Response :=
  (reading t c).bind (closing t)

/-- The store after a turn has come to a phase: a turn that ends complete is recorded. -/
def storeAfter (store : Store) (t : Turn) (c : CheckedTurn) (p : Phase) : Store :=
  match p.completion? with
  | some r => store.append t.session (c.items ++ r.output)
  | none => store

def reportsOf (sink : UsageSink) (t : Turn) : Except RelayError Response → List UsageReport
  | .ok r => if sink = .attended then [⟨r.model, t.provider, t.session, r.usage⟩] else []
  | .error _ => []

def callOf (s : Relay) (i : Nat) (t : Turn) (c : CheckedTurn) : VendorCall :=
  ⟨i, t.provider, c.converter.payloadOfItems (s.store.history t.session ++ c.items) t.request⟩

/-- A lock table once a turn has given its handle back and looked whether the lock may go. -/
def freed (locks : LockTable) (i : Nat) (t : Turn) : LockTable :=
  (locks.giveBack i).release t.session

variable (s : Relay) (i : Nat) (t : Turn) (c : CheckedTurn)

theorem setPhase_eq (p : Phase) :
    s.setPhase i p = { s with phase := Function.update s.phase i p } := by
  unfold setPhase
  congr
  funext j
  rw [Function.update_apply]

theorem finish_eq (result : Except RelayError Response) :
    s.finish i t result =
      { s with
        locks := freed s.locks i t
        phase := Function.update s.phase i (.ended result)
        events := s.events ++ endEvents t result } := by
  rw [finish, setPhase_eq]
  rfl

theorem report_eq (r : Response) :
    ∃ events, s.report t r =
      { s with reports := s.reports ++ reportsOf s.sink t (.ok r), events } := by
  refine ⟨(s.report t r).events, ?_⟩
  cases sink : s.sink with
  | attended => simp only [report, reportsOf, sink, if_true]
  | abandoned =>
    simp only [report, reportsOf, sink, note, reduceCtorEq, if_false, List.append_nil]
  | absent =>
    obtain ⟨⟩ := s
    cases sink
    simp only [report, reportsOf, reduceCtorEq, if_false, List.append_nil]

theorem record_eq (r : Response) :
    ∃ events, s.record i t c r =
      { s with
        store := storeAfter s.store t c (.ended (closing t r))
        locks := freed s.locks i t
        phase := Function.update s.phase i (.ended (closing t r))
        events } := by
  unfold record closing
  cases status : r.status with
  | completed =>
    cases t.appendError with
    | none =>
      simp only [finish_eq, storeAfter, Phase.completion?, status, if_true]
      exact ⟨_, rfl⟩
    | some reason =>
      simp only [finish_eq, storeAfter, Phase.completion?]
      exact ⟨_, rfl⟩
  | failed =>
    simp only [finish_eq, storeAfter, Phase.completion?, status, reduceCtorEq, if_false, note]
    exact ⟨_, rfl⟩

theorem receive_eq :
    ∃ events, s.receive i t c =
      { s with
        store := storeAfter s.store t c (.ended (outcome t c))
        locks := freed s.locks i t
        phase := Function.update s.phase i (.ended (outcome t c))
        reports := s.reports ++ reportsOf s.sink t (reading t c)
        events } := by
  unfold receive outcome reading
  cases t.reply with
  | error reason =>
    simp only [finish_eq, Except.bind, storeAfter, Phase.completion?, reportsOf, List.append_nil]
    exact ⟨_, rfl⟩
  | ok reply =>
    dsimp only
    cases c.converter.response t.freshId t.session reply with
    | error e =>
      simp only [finish_eq, Except.bind, storeAfter, Phase.completion?, reportsOf, List.append_nil,
        note]
      exact ⟨_, rfl⟩
    | ok r =>
      dsimp only
      obtain ⟨_, reported⟩ := report_eq (s.note (c.converter.responseEvents reply)) t r
      obtain ⟨events, recorded⟩ :=
        record_eq ((s.note (c.converter.responseEvents reply)).report t r) i t c r
      refine ⟨events, ?_⟩
      rw [recorded, reported]
      simp only [note, Except.bind]

/-- What a turn has when it has passed its checks. -/
theorem check_eq_ok {registry : Registry} {t : Turn} {c : CheckedTurn}
    (passes : check registry t = .ok c) :
    registry.get t.provider = .ok c.converter ∧ Input.parse t.request.input = .ok c.items := by
  unfold check at passes
  cases found : registry.get t.provider with
  | error e =>
    rw [found] at passes
    cases passes
  | ok converter =>
    rw [found] at passes
    cases parsed : Input.parse t.request.input with
    | error fault => simp [bind, Except.bind, parsed] at passes
    | ok items =>
      simp only [bind, Except.bind, parsed, pure, Except.pure, Except.ok.injEq] at passes
      subst passes
      exact ⟨rfl, rfl⟩

/-- A turn that is not under way asks for the lock now or has waited for it, in which table it then
stands. -/
inductive Arrives : CheckedTurn → LockTable → Prop where
  | asks {c : CheckedTurn} (ready : s.phase i = .ready) (passes : check s.registry t = .ok c) :
      Arrives c (s.locks.take i t.session)
  | waited {c : CheckedTurn} (queued : s.phase i = .queued c) : Arrives c s.locks

/-- What an action may do to its turn. -/
inductive Transition : Action → Relay → Prop where
  /-- The checks fail. -/
  | refused {e : RelayError} (ready : s.phase i = .ready) (fails : check s.registry t = .error e) :
      Transition (.poll i) { s with phase := Function.update s.phase i (.ended (.error e)) }
  /-- Another turn owns the lock. -/
  | waits {c : CheckedTurn} {locks : LockTable} (arrives : Arrives s i t c locks)
      (behind : locks.isOwner i t.session = false) :
      Transition (.poll i) { s with locks, phase := Function.update s.phase i (.queued c) }
  /-- The history cannot be loaded. -/
  | unloaded {c : CheckedTurn} {locks : LockTable} {reason : String} {events : List Event}
      (arrives : Arrives s i t c locks) (owns : locks.isOwner i t.session = true)
      (fails : t.loadError = some reason) :
      Transition (.poll i)
        { s with
          locks := freed locks i t
          phase := Function.update s.phase i (.ended (.error (.session reason)))
          events }
  /-- The vendor is called and takes its time. -/
  | calls {c : CheckedTurn} {locks : LockTable} {events : List Event}
      (arrives : Arrives s i t c locks) (owns : locks.isOwner i t.session = true)
      (loads : t.loadError = none) (delays : t.delay ≠ 0) :
      Transition (.poll i)
        { s with
          locks
          phase := Function.update s.phase i (.calling c t.delay)
          calls := s.calls ++ [callOf s i t c]
          events }
  /-- The vendor is called and answers at once. -/
  | callsAndEnds {c : CheckedTurn} {locks : LockTable} {events : List Event}
      (arrives : Arrives s i t c locks) (owns : locks.isOwner i t.session = true)
      (loads : t.loadError = none) (prompt : t.delay = 0) :
      Transition (.poll i)
        { s with
          store := storeAfter s.store t c (.ended (outcome t c))
          locks := freed locks i t
          phase := Function.update s.phase i (.ended (outcome t c))
          calls := s.calls ++ [callOf s i t c]
          reports := s.reports ++ reportsOf s.sink t (reading t c)
          events }
  /-- The vendor needs more time. -/
  | stays {c : CheckedTurn} {left : Nat} (calling : s.phase i = .calling c (left + 2)) :
      Transition (.poll i) { s with phase := Function.update s.phase i (.calling c (left + 1)) }
  /-- The vendor answers. -/
  | ends {c : CheckedTurn} {left : Nat} {events : List Event}
      (calling : s.phase i = .calling c left) (due : left ≤ 1) :
      Transition (.poll i)
        { s with
          store := storeAfter s.store t c (.ended (outcome t c))
          locks := freed s.locks i t
          phase := Function.update s.phase i (.ended (outcome t c))
          reports := s.reports ++ reportsOf s.sink t (reading t c)
          events }
  /-- The turn is dropped before it has asked for the lock. -/
  | droppedFresh (ready : s.phase i = .ready) :
      Transition (.cancel i) { s with phase := Function.update s.phase i .cancelled }
  /-- The turn is dropped while it waits for the lock or for the vendor. -/
  | dropped {c : CheckedTurn}
      (waits : s.phase i = .queued c ∨ ∃ left, s.phase i = .calling c left) :
      Transition (.cancel i)
        { s with locks := freed s.locks i t, phase := Function.update s.phase i .cancelled }

/-- A turn that owns its lock loads the history and goes on as one of the transitions says. -/
theorem enter_transition {locks : LockTable} (arrives : Arrives s i t c locks)
    (owns : locks.isOwner i t.session = true) :
    Transition s i t (.poll i) (enter { s with locks } i t c) := by
  unfold enter
  cases loads : t.loadError with
  | some reason =>
    dsimp only
    rw [finish_eq]
    exact .unloaded arrives owns loads
  | none =>
    cases delay : t.delay with
    | succ left =>
      have moved := @Transition.calls s i t c locks (call { s with locks } i t c).events arrives
        owns loads (by omega)
      rw [delay] at moved
      change Transition s i t (.poll i)
        ((call { s with locks } i t c).setPhase i (.calling c (left + 1)))
      rw [setPhase_eq]
      exact moved
    | zero =>
      obtain ⟨events, received⟩ := receive_eq (call { s with locks } i t c) i t c
      dsimp only
      rw [received]
      exact .callsAndEnds arrives owns loads delay

/-- A turn in the queue goes on if it is first there, and else waits. -/
theorem await_transition {locks : LockTable} (arrives : Arrives s i t c locks) :
    Transition s i t (.poll i) (await { s with locks } i t c) := by
  unfold await
  dsimp only
  cases owns : locks.isOwner i t.session with
  | true => exact enter_transition s i t c arrives owns
  | false =>
    rw [if_neg Bool.false_ne_true, setPhase_eq]
    exact .waits arrives owns

def Action.turn : Action → Nat
  | .poll i => i
  | .cancel i => i

theorem poll_cases {t : Turn} (here : s.turns[i]? = some t) :
    (s.phase i).isLive = false ∧ s.poll i = s ∨ Transition s i t (.poll i) (s.poll i) := by
  unfold poll
  rw [here]
  dsimp only
  cases phase : s.phase i with
  | ready =>
    right
    unfold pollPhase
    cases checked : check s.registry t with
    | error e =>
      dsimp only
      rw [setPhase_eq]
      exact .refused phase checked
    | ok c => exact await_transition s i t c (.asks phase checked)
  | queued c => exact .inr (await_transition s i t c (.waited phase))
  | calling c left =>
    right
    obtain ⟨events, received⟩ := receive_eq s i t c
    match left with
    | left + 2 =>
      rw [pollPhase, setPhase_eq]
      exact .stays phase
    | 1 =>
      rw [pollPhase, received]
      · exact .ends phase (Nat.le_refl 1)
      · simp
    | 0 =>
      rw [pollPhase, received]
      · exact .ends phase (Nat.zero_le 1)
      · simp
  | ended result => exact .inl ⟨rfl, rfl⟩
  | cancelled => exact .inl ⟨rfl, rfl⟩

theorem cancel_cases {t : Turn} (here : s.turns[i]? = some t) :
    (s.phase i).isLive = false ∧ s.cancel i = s ∨ Transition s i t (.cancel i) (s.cancel i) := by
  unfold cancel
  rw [here]
  cases phase : s.phase i with
  | ready =>
    right
    dsimp only
    rw [setPhase_eq]
    exact .droppedFresh phase
  | queued c =>
    right
    dsimp only
    rw [setPhase_eq]
    exact .dropped (.inl phase)
  | calling c left =>
    right
    dsimp only
    rw [setPhase_eq]
    exact .dropped (.inr ⟨left, phase⟩)
  | ended result => exact .inl ⟨rfl, rfl⟩
  | cancelled => exact .inl ⟨rfl, rfl⟩

/-- An action on a turn that has ended, or on none, does nothing. -/
theorem step_cases (a : Action) :
    s.step a = s ∧ (∀ t, s.turns[a.turn]? = some t → (s.phase a.turn).isLive = false) ∨
      ∃ i t, s.turns[i]? = some t ∧ Transition s i t a (s.step a) := by
  cases here : s.turns[a.turn]? with
  | none =>
    left
    cases a with
    | poll i => exact ⟨by simp only [step, poll, show s.turns[i]? = none from here], by simp⟩
    | cancel i => exact ⟨by simp only [step, cancel, show s.turns[i]? = none from here], by simp⟩
  | some t =>
    cases a with
    | poll i =>
      rcases poll_cases s i here with ⟨still, same⟩ | moves
      · exact .inl ⟨same, fun _ _ => still⟩
      · exact .inr ⟨i, t, here, moves⟩
    | cancel i =>
      rcases cancel_cases s i here with ⟨still, same⟩ | moves
      · exact .inl ⟨same, fun _ _ => still⟩
      · exact .inr ⟨i, t, here, moves⟩

end Relay
end ChatRelay
