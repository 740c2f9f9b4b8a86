import ChatRelay.Relay.Basic

/-!
# Rounds

One way to run a set of turns to their ends: in each round every turn that has not ended is polled
once, in order. A turn may be given a last round, after whose poll it is dropped.
-/
namespace ChatRelay

/-- A relay whose turns are run in rounds. -/
structure Rounds where
  relay : Relay
  /-- The number of the round. -/
  round : Nat
  /-- The rounds in which turns ended or were dropped. -/
  ends : List (Nat × Nat)

namespace Rounds

/-- Polls one turn, and drops it if this was its last round and it has not ended. -/
def visit (s : Rounds) (i : Nat) (last : Option Nat) : Rounds :=
  if (s.relay.phase i).isLive then
    let relay := s.relay.poll i
    let relay := if last = some s.round then relay.cancel i else relay
    if (relay.phase i).isLive then { s with relay }
    else { s with relay, ends := (i, s.round) :: s.ends }
  else s

/-- Visits the turns from the one with index `i` on. -/
def visitFrom (s : Rounds) (i : Nat) : List (Option Nat) → Rounds
  | [] => s
  | last :: rest => (s.visit i last).visitFrom (i + 1) rest

def runFuel (lasts : List (Option Nat)) : Nat → Rounds → Rounds
  | 0, s => s
  | fuel + 1, s =>
    let s := s.visitFrom 0 lasts
    if s.ends.length < lasts.length then runFuel lasts fuel { s with round := s.round + 1 } else s

/-- Runs the turns of a relay; `lasts` holds the last round of each. In each round some turn in
flight comes closer to its end, so the delays and the number of turns bound the rounds. -/
def run (relay : Relay) (lasts : List (Option Nat)) : Rounds :=
  let bound := relay.turns.foldl (fun n t => n + t.delay + 1) 1
  runFuel lasts bound { relay, round := 1, ends := [] }

def endOf (s : Rounds) (i : Nat) : Nat := ((s.ends.find? fun e => e.1 = i).map Prod.snd).getD 0

end Rounds
end ChatRelay
