import ChatRelay.Conversation.Request
import ChatRelay.Converter

/-!
# Turns

A turn is a request for one session, together with everything that the world around the relay does
to it: how long the vendor takes, what it answers, and whether the store fails.
-/
namespace ChatRelay

/-- A turn and its circumstances. -/
structure Turn where
  session : String
  provider : String
  request : Request
  /-- The id of the response if the vendor gives none. -/
  freshId : String
  /-- How many polls the vendor takes to answer. -/
  delay : Nat
  /-- The vendor's reply, or the reason why none arrives. -/
  reply : Except String (List Letter)
  /-- Why the store fails to load the session. -/
  loadError : Option String
  /-- Why the store fails to record the turn. -/
  appendError : Option String

/-- A turn that has passed its checks. -/
structure CheckedTurn where
  converter : Converter
  /-- The items of the new input. -/
  items : List Item

/-- How far a turn has come. A turn can only be suspended while it waits for its lock or for the
vendor. The store answers at once, as the one in memory does, so that no phase stands for a load or
an append that is under way. -/
inductive Phase where
  /-- It has not been polled. -/
  | ready
  /-- It waits for the lock of its session. -/
  | queued (c : CheckedTurn)
  /-- The vendor will answer after so many polls. -/
  | calling (c : CheckedTurn) (left : Nat)
  | ended (result : Except RelayError Response)
  /-- It was dropped before it ended. -/
  | cancelled

namespace Phase

/-- Whether the turn goes on when it is polled. -/
def isLive : Phase → Bool
  | .ready => true
  | .queued _ => true
  | .calling _ _ => true
  | .ended _ => false
  | .cancelled => false

end Phase

structure VendorCall where
  /-- The turn that makes the call. -/
  turn : Nat
  provider : String
  payload : Json
  deriving Repr, BEq

structure UsageReport where
  model : String
  provider : String
  session : String
  usage : Usage
  deriving DecidableEq, Repr

inductive UsageSink where
  /-- They are received. -/
  | attended
  /-- No one receives them any more. -/
  | abandoned
  /-- They are not sent. -/
  | absent
  deriving DecidableEq, Repr

end ChatRelay
