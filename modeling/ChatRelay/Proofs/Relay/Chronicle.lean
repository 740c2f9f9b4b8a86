import ChatRelay.Proofs.Relay.Order
import Mathlib.Data.List.Induction

/-!
# The chronicle of a run

A chronicle lists the turns that a run lets in, and the turns that it records, each in their order.
What it tells stands to the relay as `InOrder` says after every action: a turn is let in only while
no other turn of its session waits for the vendor.
-/
namespace ChatRelay.Relay

/-- Whether polling a turn now lets it in: it asks for the lock of its session or has waited for it,
and is first in its queue. Then it loads the history. -/
def acquires (s : Relay) (i : Nat) : Bool :=
  match s.turns[i]?, s.phase i with
  | some t, .ready =>
    match check s.registry t with
    | .ok _ => (s.locks.take i t.session).isOwner i t.session
    | .error _ => false
  | some t, .queued _ => s.locks.isOwner i t.session
  | _, _ => false

/-- The turn that an action lets in, if it does. -/
def acquiredBy (s : Relay) : Action → List Nat
  | .poll i => if s.acquires i then [i] else []
  | .cancel _ => []

theorem acquiredBy_poll {s : Relay} {i : Nat} (acquires : s.acquires i = true) :
    s.acquiredBy (.poll i) = [i] := by
  rw [acquiredBy, if_pos acquires]

theorem acquiredBy_poll_of_not {s : Relay} {i : Nat} (still : s.acquires i = false) :
    s.acquiredBy (.poll i) = [] := by
  rw [acquiredBy, if_neg (Bool.eq_false_iff.1 still)]

/-- A turn that is recorded between two phases. -/
def newlyRecorded (before after : Nat → Phase) (i : Nat) : List Nat :=
  if isRecorded before i then [] else if isRecorded after i then [i] else []

/-- A relay with the turns let in and the turns recorded, each in their order. -/
structure Chronicle where
  relay : Relay
  acquired : List Nat
  recorded : List Nat

namespace Chronicle

def start (s : Relay) : Chronicle := ⟨s, [], []⟩

def step (c : Chronicle) (a : Action) : Chronicle where
  relay := c.relay.step a
  acquired := c.acquired ++ c.relay.acquiredBy a
  recorded := c.recorded ++ newlyRecorded c.relay.phase (c.relay.step a).phase a.turn

def run (s : Relay) (actions : List Action) : Chronicle := actions.foldl step (start s)

theorem run_append (s : Relay) (actions : List Action) (a : Action) :
    run s (actions ++ [a]) = (run s actions).step a := by
  rw [run, List.foldl_append]
  rfl

/-- Telling changes nothing. -/
theorem relay_run (s : Relay) (actions : List Action) :
    (run s actions).relay = s.run actions := by
  induction actions using List.reverseRecOn with
  | nil => rfl
  | append_singleton rest a ih =>
    rw [run_append, Relay.run, List.foldl_append]
    exact congrArg (Relay.step · a) ih

end Chronicle

theorem run_append (s : Relay) (actions : List Action) (a : Action) :
    s.run (actions ++ [a]) = (s.run actions).step a := by
  rw [run, List.foldl_append]
  rfl

variable {s s' : Relay} {i : Nat} {t : Turn} {c : CheckedTurn} {locks : LockTable} {a : Action}

/-- A turn that arrives is let in exactly when it is first in the queue. -/
theorem Arrives.acquires_eq (arrives : Arrives s i t c locks) (here : s.turns[i]? = some t) :
    s.acquires i = locks.isOwner i t.session := by
  cases arrives with
  | asks ready passes => simp only [acquires, here, ready, passes]
  | waited queued => simp only [acquires, here, queued]

theorem Arrives.outside (arrives : Arrives s i t c locks) :
    s.phase i = .ready ∨ ∃ c, s.phase i = .queued c := by
  cases arrives with
  | asks ready passes => exact .inl ready
  | waited queued => exact .inr ⟨c, queued⟩

theorem exists_arrives (acquires : s.acquires i = true) :
    ∃ t c locks, s.turns[i]? = some t ∧ Arrives s i t c locks ∧
      locks.isOwner i t.session = true := by
  unfold Relay.acquires at acquires
  split at acquires
  · rename_i t here ready
    split at acquires
    · rename_i c passes
      exact ⟨t, c, _, here, .asks ready passes, acquires⟩
    · cases acquires
  · rename_i t c here queued
    exact ⟨t, c, _, here, .waited queued, acquires⟩
  · cases acquires

/-- A turn that owns the lock of its session finds no other turn of it in a call. -/
theorem Guarded.alone (guarded : s.Guarded) (here : s.turns[i]? = some t)
    (arrives : Arrives s i t c locks) (owns : locks.isOwner i t.session = true) {j : Nat}
    {c' : CheckedTurn} {left : Nat} {id : String} (calling : s.phase j = .calling c' left)
    (ofId : isOf s.turns id j = true) : isOf s.turns id i = false := by
  rw [← Bool.not_eq_true]
  intro same
  cases there : s.turns[j]? with
  | none =>
    simp only [isOf, there] at ofId
    cases ofId
  | some u =>
    have equal := arrives.exclusive guarded owns here there
      (((isOf_here here).1 same).trans ((isOf_here there).1 ofId).symm) calling
    subst equal
    rcases arrives.outside with ready | ⟨c, queued⟩
    · rw [ready] at calling
      cases calling
    · rw [queued] at calling
      cases calling

theorem newlyRecorded_update {phase : Nat → Phase} {p : Phase}
    (before : isRecorded phase i = false) :
    newlyRecorded phase (Function.update phase i p) i =
      if p.completion?.isSome then [i] else [] := by
  rw [newlyRecorded, before, isRecorded, Function.update_self]
  rfl

/-- A turn that moves on without being recorded. -/
theorem newlyRecorded_quiet {phase : Nat → Phase} {p : Phase} (before : isRecorded phase i = false)
    (after : p.completion? = none) : newlyRecorded phase (Function.update phase i p) i = [] := by
  rw [newlyRecorded_update before, after]
  rfl

theorem newlyRecorded_self (phase : Nat → Phase) (i : Nat) : newlyRecorded phase phase i = [] := by
  unfold newlyRecorded
  cases isRecorded phase i <;> rfl

theorem Arrives.notRecorded (arrives : Arrives s i t c locks) : isRecorded s.phase i = false :=
  notRecorded_of_outside arrives.outside

/-- A turn that is let in and ends within one action. -/
theorem InOrder.acquire_settle {turns : List Turn} {initial store : Store} {phase : Nat → Phase}
    {acquired recorded : List Nat} {p : Phase}
    (inOrder : InOrder turns initial phase store acquired recorded) (here : turns[i]? = some t)
    (parses : Input.parse t.request.input = .ok c.items)
    (outside : phase i = .ready ∨ ∃ c, phase i = .queued c)
    (alone : ∀ j c left id, phase j = .calling c left → isOf turns id j = true →
      isOf turns id i = false) (finished : p.isLive = false) :
    InOrder turns initial (Function.update phase i p) (storeAfter store t c p) (acquired ++ [i])
      (recorded ++ if p.completion?.isSome then [i] else []) := by
  have inside : InOrder turns initial (Function.update phase i (.calling c 0)) store
      (acquired ++ [i]) recorded := inOrder.acquire outside alone
  have settled := inside.settle here parses (Function.update_self _ _ _) finished
  rwa [Function.update_idem] at settled

/-- The order of the turns let in and recorded is kept by every transition. -/
theorem InOrder.transition {initial : Store} {acquired recorded : List Nat}
    (inOrder : InOrder s.turns initial s.phase s.store acquired recorded) (guarded : s.Guarded)
    (here : s.turns[i]? = some t) (moves : Transition s i t a s') :
    InOrder s.turns initial s'.phase s'.store (acquired ++ s.acquiredBy a)
      (recorded ++ newlyRecorded s.phase s'.phase a.turn) := by
  have parses {c : CheckedTurn} (passes : check s.registry t = .ok c) :
      Input.parse t.request.input = .ok c.items := (check_eq_ok passes).2
  have fresh (ready : s.phase i = .ready) : isRecorded s.phase i = false :=
    notRecorded_of_outside (.inl ready)
  have busy {c : CheckedTurn} {left : Nat} (calling : s.phase i = .calling c left) :
      isRecorded s.phase i = false := by
    rw [isRecorded, calling]; rfl
  cases moves with
  | refused ready fails =>
    have still : s.acquires i = false := by simp only [acquires, here, ready, fails]
    rw [acquiredBy_poll_of_not still, Action.turn, newlyRecorded_quiet (fresh ready),
      List.append_nil, List.append_nil]
    · exact inOrder.quiet (fresh ready) rfl (by simp) (by simp)
    · rfl
  | waits arrives behind =>
    have still : s.acquires i = false := (arrives.acquires_eq here).trans behind
    have new := inOrder.not_mem_acquired arrives.outside
    rw [acquiredBy_poll_of_not still, Action.turn,
      newlyRecorded_quiet arrives.notRecorded, List.append_nil, List.append_nil]
    · exact inOrder.quiet arrives.notRecorded rfl (absurd · new) (by simp)
    · rfl
  | unloaded arrives owns fails =>
    rw [acquiredBy_poll ((arrives.acquires_eq here).trans owns), Action.turn,
      newlyRecorded_update arrives.notRecorded]
    exact inOrder.acquire_settle here (parses (arrives.checked guarded here)) arrives.outside
      (fun _ _ _ _ => guarded.alone here arrives owns) rfl
  | calls arrives owns loads delays =>
    rw [acquiredBy_poll ((arrives.acquires_eq here).trans owns), Action.turn,
      newlyRecorded_quiet arrives.notRecorded, List.append_nil]
    · exact inOrder.acquire arrives.outside (fun _ _ _ _ => guarded.alone here arrives owns)
    · rfl
  | callsAndEnds arrives owns loads prompt =>
    rw [acquiredBy_poll ((arrives.acquires_eq here).trans owns), Action.turn,
      newlyRecorded_update arrives.notRecorded]
    exact inOrder.acquire_settle here (parses (arrives.checked guarded here)) arrives.outside
      (fun _ _ _ _ => guarded.alone here arrives owns) rfl
  | stays calling =>
    have still : s.acquires i = false := by simp only [acquires, here, calling]
    rw [acquiredBy_poll_of_not still, Action.turn, newlyRecorded_quiet (busy calling),
      List.append_nil, List.append_nil]
    · exact inOrder.quiet (busy calling) rfl (by simp) (fun _ _ _ => ⟨_, _, calling⟩)
    · rfl
  | ends calling due =>
    have still : s.acquires i = false := by simp only [acquires, here, calling]
    have passes := guarded.checked here (.inr ⟨_, calling⟩)
    rw [acquiredBy_poll_of_not still, Action.turn,
      newlyRecorded_update (busy calling), List.append_nil]
    exact inOrder.settle here (parses passes) calling rfl
  | droppedFresh ready =>
    rw [acquiredBy, Action.turn, newlyRecorded_quiet (fresh ready), List.append_nil,
      List.append_nil]
    · exact inOrder.quiet (fresh ready) rfl (by simp) (by simp)
    · rfl
  | dropped waits =>
    have pending : isRecorded s.phase i = false := by
      rcases waits with queued | ⟨left, calling⟩
      · exact notRecorded_of_outside (.inr ⟨_, queued⟩)
      · exact busy calling
    rw [acquiredBy, Action.turn, newlyRecorded_quiet pending, List.append_nil, List.append_nil]
    · exact inOrder.quiet pending rfl (by simp) (by simp)
    · rfl

theorem isRecorded_iff {phase : Nat → Phase} :
    isRecorded phase i = true ↔ ∃ r, phase i = .ended (.ok r) ∧ r.status = .completed := by
  unfold isRecorded
  cases phase i with
  | ended result =>
    cases result with
    | error e => simp [Phase.completion?]
    | ok r => cases status : r.status <;> simp [Phase.completion?, status]
  | _ => simp [Phase.completion?]

/-- A turn whose answer lets it end complete could be recorded. -/
theorem appendError_of_outcome {r : Response} (ends : outcome t c = .ok r)
    (complete : r.status = .completed) : t.appendError = none := by
  unfold outcome at ends
  cases answer : reading t c with
  | error e =>
    rw [answer] at ends
    cases ends
  | ok answered =>
    rw [answer, Except.bind, closing] at ends
    split at ends
    · cases ends
    · rename_i recordable
      cases ends
      cases failing : t.appendError with
      | none => rfl
      | some reason => exact absurd failing (recordable reason complete)

/-- Recorded turns have passed their checks and the store has taken them. -/
def Appended (s : Relay) : Prop :=
  ∀ i, isRecorded s.phase i = true → ∃ t items, s.turns[i]? = some t ∧ t.appendError = none ∧
    Input.parse t.request.input = .ok items

theorem Appended.quiet (appended : s.Appended) {p : Phase} (turns : s'.turns = s.turns)
    (phase : s'.phase = Function.update s.phase i p) (after : p.completion? = none) :
    s'.Appended := by
  intro j recorded
  rw [phase] at recorded
  by_cases same : j = i
  · subst same
    rw [isRecorded, Function.update_self, after] at recorded
    cases recorded
  · rw [isRecorded_update_of_ne same] at recorded
    rw [turns]
    exact appended j recorded

theorem Appended.ends (appended : s.Appended) (here : s.turns[i]? = some t)
    (passes : check s.registry t = .ok c) (turns : s'.turns = s.turns)
    (phase : s'.phase = Function.update s.phase i (.ended (outcome t c))) : s'.Appended := by
  intro j recorded
  rw [phase] at recorded
  rw [turns]
  by_cases same : j = i
  · subst same
    obtain ⟨r, ended, complete⟩ := isRecorded_iff.1 recorded
    rw [Function.update_self, Phase.ended.injEq] at ended
    exact ⟨t, c.items, here, appendError_of_outcome ended complete, (check_eq_ok passes).2⟩
  · rw [isRecorded_update_of_ne same] at recorded
    exact appended j recorded

theorem Appended.step (appended : s.Appended) (guarded : s.Guarded) (a : Action) :
    (s.step a).Appended := by
  rcases step_cases s a with ⟨same, _⟩ | ⟨i, t, here, moves⟩
  · rwa [same]
  generalize s.step a = s' at moves
  cases moves with
  | callsAndEnds arrives owns loads prompt =>
    exact appended.ends here (arrives.checked guarded here) rfl rfl
  | ends calling due => exact appended.ends here (guarded.checked here (.inr ⟨_, calling⟩)) rfl rfl
  | _ => exact appended.quiet rfl rfl rfl

/-- What the chronicle of a run from a relay at rest tells is true of the relay it has come to. -/
structure Chronicle.Faithful (s : Relay) (c : Chronicle) : Prop where
  registry : c.relay.registry = s.registry
  turns : c.relay.turns = s.turns
  guarded : c.relay.Guarded
  inOrder : InOrder s.turns s.store c.relay.phase c.relay.store c.acquired c.recorded
  appended : c.relay.Appended
  sent : (c.relay.calls.map VendorCall.turn).Sublist c.acquired

theorem step_turns (s : Relay) (a : Action) : (s.step a).turns = s.turns := by
  rcases step_cases s a with ⟨same, _⟩ | ⟨i, t, here, moves⟩
  · rw [same]
  · generalize s.step a = s' at moves
    cases moves <;> rfl

theorem step_registry (s : Relay) (a : Action) : (s.step a).registry = s.registry := by
  rcases step_cases s a with ⟨same, _⟩ | ⟨i, t, here, moves⟩
  · rw [same]
  · generalize s.step a = s' at moves
    cases moves <;> rfl

/-- The only action that calls a vendor is a poll that lets a turn in. -/
theorem Guarded.step_calls (guarded : s.Guarded) (a : Action) :
    (s.step a).calls = s.calls ∨
      ∃ i t c, a = .poll i ∧ s.turns[i]? = some t ∧ s.acquires i = true ∧
        check s.registry t = .ok c ∧ (s.step a).calls = s.calls ++ [callOf s i t c] := by
  rcases step_cases s a with ⟨same, _⟩ | ⟨i, t, here, moves⟩
  · exact .inl (by rw [same])
  generalize s.step a = s' at moves
  cases moves with
  | calls arrives owns loads delays =>
    exact .inr ⟨i, t, _, rfl, here, (arrives.acquires_eq here).trans owns,
      arrives.checked guarded here, rfl⟩
  | callsAndEnds arrives owns loads prompt =>
    exact .inr ⟨i, t, _, rfl, here, (arrives.acquires_eq here).trans owns,
      arrives.checked guarded here, rfl⟩
  | _ => exact .inl rfl

theorem faithful_start (registry : Registry) (sink : UsageSink) (store : Store)
    (turns : List Turn) :
    (Chronicle.start (start registry sink store turns)).Faithful
      (start registry sink store turns) where
  registry := rfl
  turns := rfl
  guarded := guarded_start registry sink store turns
  inOrder := inOrder_start turns store
  appended _ recorded := by cases recorded
  sent := .slnil

/-- Nothing is let in or recorded by an action that does nothing. -/
theorem idle_step (s : Relay) (a : Action)
    (still : ∀ t, s.turns[a.turn]? = some t → (s.phase a.turn).isLive = false) :
    s.acquiredBy a = [] := by
  cases a with
  | cancel i => rfl
  | poll i =>
    refine acquiredBy_poll_of_not (Bool.eq_false_iff.2 fun acquires => ?_)
    obtain ⟨t, c, locks, here, arrives, _⟩ := exists_arrives acquires
    have finished : (s.phase i).isLive = false := still t here
    rcases arrives.outside with ready | ⟨c, queued⟩
    · rw [ready] at finished
      cases finished
    · rw [queued] at finished
      cases finished

/-- What a chronicle tells stays true over one more action. -/
theorem Chronicle.Faithful.step {s : Relay} {c : Chronicle} (faithful : c.Faithful s) (a : Action) :
    (c.step a).Faithful s := by
  refine ⟨(step_registry _ a).trans faithful.registry, (step_turns _ a).trans faithful.turns,
    faithful.guarded.step a, ?_, faithful.appended.step faithful.guarded a, ?_⟩
  · have inOrder := faithful.inOrder
    rw [← faithful.turns] at inOrder ⊢
    rcases step_cases c.relay a with ⟨same, still⟩ | ⟨i, t, here, moves⟩
    · simp only [Chronicle.step, same, idle_step _ a still, newlyRecorded_self, List.append_nil]
      exact inOrder
    · exact inOrder.transition faithful.guarded here moves
  · simp only [Chronicle.step]
    rcases faithful.guarded.step_calls a with same | ⟨i, t, c', rfl, here, acquires, passes, called⟩
    · rw [same]
      exact faithful.sent.trans (List.sublist_append_left _ _)
    · rw [called, List.map_append, acquiredBy_poll acquires]
      exact faithful.sent.append (.refl _)

/-- What the chronicle of a run tells is true of it, by induction on the actions. -/
theorem faithful_run (registry : Registry) (sink : UsageSink) (store : Store) (turns : List Turn)
    (actions : List Action) :
    (Chronicle.run (start registry sink store turns) actions).Faithful
      (start registry sink store turns) := by
  induction actions using List.reverseRecOn with
  | nil => exact faithful_start registry sink store turns
  | append_singleton rest a ih =>
    rw [Chronicle.run_append]
    exact ih.step a

/-- The history of a session as the turns recorded by some actions have left it. -/
def recordedHistory (s : Relay) (actions : List Action) (id : String) : List Item :=
  s.store.history id ++ ((Chronicle.run s actions).recorded.filter (isOf s.turns id)).flatMap
    (contribution s.turns (s.run actions).phase)

theorem history_run (registry : Registry) (sink : UsageSink) (store : Store) (turns : List Turn)
    (actions : List Action) (id : String) :
    ((start registry sink store turns).run actions).store.history id =
      recordedHistory (start registry sink store turns) actions id := by
  have history := (faithful_run registry sink store turns actions).inOrder.history id
  rwa [Chronicle.relay_run] at history

end ChatRelay.Relay
