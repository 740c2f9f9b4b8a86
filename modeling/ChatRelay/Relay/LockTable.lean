/-!
# The lock table

Turns of one session run one at a time, under a lock that stands in a table under the session's id.
A lock is made when the first turn asks for it and leaves the table when no turn uses it any more.
The table changes in three steps, which turns of different sessions and of the same one may
interleave freely: a turn takes a handle of its session's lock, it gives the handle back, and it
removes the lock if no handle is left.

Handles are kept in the order in which they were taken. The first handle of a lock is the one that
owns it, or comes next to own it, and those behind it wait in this order.
-/
namespace ChatRelay

/-- A turn's use of the lock of its session. Locks that stand in the table one after another under
the same id are told apart by their numbers. -/
structure LockHandle where
  turn : Nat
  session : String
  lock : Nat
  deriving DecidableEq, Repr

/-- The locks by session, and the handles that live turns hold. -/
structure LockTable where
  locks : List (String × Nat)
  handles : List LockHandle
  /-- The number of the next lock. -/
  next : Nat
  deriving DecidableEq, Repr

namespace LockTable

def empty : LockTable := ⟨[], [], 0⟩

def lock? (t : LockTable) (session : String) : Option Nat :=
  (t.locks.find? fun l => l.1 = session).map Prod.snd

/-- A turn takes a handle of its session's lock, which is made if there is none. -/
def take (t : LockTable) (turn : Nat) (session : String) : LockTable :=
  match t.lock? session with
  | some lock => { t with handles := t.handles ++ [⟨turn, session, lock⟩] }
  | none =>
    { locks := t.locks ++ [(session, t.next)]
      handles := t.handles ++ [⟨turn, session, t.next⟩]
      next := t.next + 1 }

/-- A turn gives its handle back; the lock passes to the next handle. -/
def giveBack (t : LockTable) (turn : Nat) : LockTable :=
  { t with handles := t.handles.filter fun h => h.turn ≠ turn }

def isUsed (t : LockTable) (lock : Nat) : Bool := t.handles.any fun h => h.lock = lock

/-- A session's lock leaves the table if no handle of it is held. -/
def release (t : LockTable) (session : String) : LockTable :=
  match t.lock? session with
  | some lock =>
    if t.isUsed lock then t
    else { t with locks := t.locks.filter fun l => l.1 ≠ session }
  | none => t

/-- The turns that hold handles of a session's lock, the owner first. -/
def queue (t : LockTable) (session : String) : List Nat :=
  match t.lock? session with
  | some lock => (t.handles.filter fun h => h.lock = lock).map LockHandle.turn
  | none => []

def isOwner (t : LockTable) (turn : Nat) (session : String) : Bool :=
  (t.queue session).head? = some turn

def size (t : LockTable) : Nat := t.locks.length

end LockTable
end ChatRelay
