import ChatRelay.Registry
import ChatRelay.Relay.LockTable
import ChatRelay.Relay.Turn
import ChatRelay.Store

/-!
# The relay

The relay runs turns against vendors. It is a transition system: polling a turn takes it as far as
it can go, and dropping a turn ends it where it stands. A turn is checked before it asks for the
lock of its session; under the lock it loads the history, calls the vendor, and is recorded if the
response is complete. Everything else that ends a turn leaves the store as it was.
-/
namespace ChatRelay

/-- The relay with its turns. Calls, reports and events are in the order in which they happened. -/
structure Relay where
  registry : Registry
  sink : UsageSink
  turns : List Turn
  store : Store
  locks : LockTable
  phase : Nat → Phase
  calls : List VendorCall
  reports : List UsageReport
  events : List Event

namespace Relay

/-- A relay at rest, with turns that have not been polled. -/
def start (registry : Registry) (sink : UsageSink) (store : Store) (turns : List Turn) : Relay :=
  { registry, sink, turns, store
    locks := .empty, phase := fun _ => .ready, calls := [], reports := [], events := [] }

def note (s : Relay) (events : List Event) : Relay := { s with events := s.events ++ events }

def setPhase (s : Relay) (i : Nat) (p : Phase) : Relay :=
  { s with phase := fun j => if j = i then p else s.phase j }

/-- Gives back the handle of a turn and removes the lock if it was the last one. -/
def unlock (s : Relay) (i : Nat) (t : Turn) : Relay :=
  { s with locks := (s.locks.giveBack i).release t.session }

def endEvents (t : Turn) : Except RelayError Response → List Event
  | .ok r => [.turnFinished t.session t.provider r.model r.status r.usage.total]
  | .error _ => []

def finish (s : Relay) (i : Nat) (t : Turn) (result : Except RelayError Response) : Relay :=
  ((s.unlock i t).setPhase i (.ended result)).note (endEvents t result)

def report (s : Relay) (t : Turn) (r : Response) : Relay :=
  match s.sink with
  | .attended => { s with reports := s.reports ++ [⟨r.model, t.provider, t.session, r.usage⟩] }
  | .abandoned => s.note [.reportDropped t.session t.provider]
  | .absent => s

/-- Records a turn whose response is complete, and ends it. -/
def record (s : Relay) (i : Nat) (t : Turn) (c : CheckedTurn) (r : Response) : Relay :=
  match r.status with
  | .completed =>
    match t.appendError with
    | some reason => s.finish i t (.error (.session reason))
    | none =>
      finish { s with store := s.store.append t.session (c.items ++ r.output) } i t (.ok r)
  | .failed => (s.note [.turnNotRecorded t.session t.provider r.id]).finish i t (.ok r)

def receive (s : Relay) (i : Nat) (t : Turn) (c : CheckedTurn) : Relay :=
  match t.reply with
  | .error reason => s.finish i t (.error (.transport reason))
  | .ok reply =>
    let s := s.note (c.converter.responseEvents reply)
    match c.converter.response t.freshId t.session reply with
    | .error e => s.finish i t (.error e)
    | .ok r => (s.report t r).record i t c r

def call (s : Relay) (i : Nat) (t : Turn) (c : CheckedTurn) : Relay :=
  let history := s.store.history t.session
  { s with
    calls := s.calls ++
      [⟨i, t.provider, c.converter.payloadOfItems (history ++ c.items) t.request⟩]
    events := s.events ++ c.converter.payloadEvents history t.request ++
      [.requestSent t.session t.provider history.length c.items.length] }

/-- Goes on with a turn that owns the lock of its session. -/
def enter (s : Relay) (i : Nat) (t : Turn) (c : CheckedTurn) : Relay :=
  match t.loadError with
  | some reason => s.finish i t (.error (.session reason))
  | none =>
    match t.delay with
    | 0 => (s.call i t c).receive i t c
    | delay => (s.call i t c).setPhase i (.calling c delay)

/-- Goes on with a turn if it owns the lock of its session, else lets it wait. -/
def await (s : Relay) (i : Nat) (t : Turn) (c : CheckedTurn) : Relay :=
  if s.locks.isOwner i t.session then s.enter i t c else s.setPhase i (.queued c)

/-- The checks of a turn, which need neither lock nor store. -/
def check (registry : Registry) (t : Turn) : Except RelayError CheckedTurn := do
  let converter ← registry.get t.provider
  match Input.parse t.request.input with
  | .ok items => return { converter, items }
  | .error fault => .error (.invalidInput fault.message)

def pollPhase (s : Relay) (i : Nat) (t : Turn) : Phase → Relay
  | .ready =>
    match check s.registry t with
    | .error e => s.setPhase i (.ended (.error e))
    | .ok c => await { s with locks := s.locks.take i t.session } i t c
  | .queued c => s.await i t c
  | .calling c (left + 2) => s.setPhase i (.calling c (left + 1))
  | .calling c _ => s.receive i t c
  | .ended _ => s
  | .cancelled => s

def poll (s : Relay) (i : Nat) : Relay :=
  match s.turns[i]? with
  | some t => s.pollPhase i t (s.phase i)
  | none => s

def cancel (s : Relay) (i : Nat) : Relay :=
  match s.turns[i]?, s.phase i with
  | some _, .ready => s.setPhase i .cancelled
  | some t, .queued _ => (s.unlock i t).setPhase i .cancelled
  | some t, .calling _ _ => (s.unlock i t).setPhase i .cancelled
  | _, _ => s

/-- What may happen to a turn from outside. -/
inductive Action where
  | poll (i : Nat)
  | cancel (i : Nat)
  deriving DecidableEq, Repr

def step (s : Relay) : Action → Relay
  | .poll i => s.poll i
  | .cancel i => s.cancel i

def run (s : Relay) (actions : List Action) : Relay := actions.foldl step s

end Relay
end ChatRelay
