import ChatRelay.Event

/-!
# The call ledger

Pairs function outputs with the calls they answer. A call without an id gets one that depends only
on what came before it, so the same conversation always has the same ids.
-/
namespace ChatRelay

/-- A call that no output has answered yet. -/
structure PendingCall where
  id : String
  name : String
  deriving DecidableEq, Repr

/-- The calls that wait for an output, oldest first, and how many ids have been made up. -/
structure CallLedger where
  pending : List PendingCall
  madeUp : Nat
  deriving DecidableEq, Repr

namespace CallLedger

def empty : CallLedger := ⟨[], 0⟩

/-- The text that counts as given: not the empty one. -/
def given (s : Option String) : Option String := s.filter fun s => s ≠ ""

/-- The next made-up id. -/
def nextId (l : CallLedger) : String := "call_" ++ toString (l.madeUp + 1)

/-- Records a call under its own id or else a made-up one, and returns the id. -/
def call (l : CallLedger) (c : FunctionCall) : PendingCall × CallLedger :=
  match given c.callId with
  | some id => (⟨id, c.name⟩, { l with pending := l.pending ++ [⟨id, c.name⟩] })
  | none => (⟨l.nextId, c.name⟩, ⟨l.pending ++ [⟨l.nextId, c.name⟩], l.madeUp + 1⟩)

/-- The oldest pending call with an id, and the others. -/
def take? (id : String) : List PendingCall → Option (PendingCall × List PendingCall)
  | [] => none
  | p :: rest =>
    if p.id = id then some (p, rest)
    else (take? id rest).map fun (found, others) => (found, p :: others)

def oldestName (l : CallLedger) : String := (l.pending.head?.map PendingCall.name).getD ""

/-- The call that an output answers. An output with an id answers the oldest call of that id; if
there is none it keeps its id and borrows the name of the oldest call, since vendors want every
output named. An output without an id answers the oldest call, or a made-up one. -/
def answered (l : CallLedger) (o : FunctionOutput) : PendingCall × CallLedger :=
  match given o.callId with
  | some id =>
    match take? id l.pending with
    | some (found, others) => (found, { l with pending := others })
    | none => (⟨id, l.oldestName⟩, l)
  | none =>
    match l.pending with
    | oldest :: others => (oldest, { l with pending := others })
    | [] => (⟨l.nextId, ""⟩, { l with madeUp := l.madeUp + 1 })

/-- Resolves an output to the id and the name to send with it; a name of its own comes first. -/
def output (l : CallLedger) (o : FunctionOutput) : PendingCall × CallLedger :=
  let (found, l') := l.answered o
  (⟨found.id, (given o.name).getD found.name⟩, l')

def outputEvents (l : CallLedger) (o : FunctionOutput) : List Event :=
  match given o.callId with
  | some id =>
    match take? id l.pending with
    | some _ => []
    | none => [.strayOutput id l.oldestName]
  | none => if l.pending.isEmpty then [.outputWithoutCall] else []

end CallLedger
end ChatRelay
