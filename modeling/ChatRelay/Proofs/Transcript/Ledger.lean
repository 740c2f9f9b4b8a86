import ChatRelay.Transcript.Basic
import Mathlib.Data.List.Basic

/-!
# The ledger along a conversation

What an item says depends on the items before it only through the ledger. So a conversation that
goes on says first what it has said before, with the same ids and names.
-/
namespace ChatRelay

namespace CallLedger

def madeUpId (k : Nat) : String := "call_" ++ toString k

theorem nextId_eq (l : CallLedger) : l.nextId = madeUpId (l.madeUp + 1) := rfl

theorem call_name (l : CallLedger) (c : FunctionCall) : (l.call c).1.name = c.name := by
  unfold call
  split <;> rfl

theorem call_own {c : FunctionCall} {id : String} (own : given c.callId = some id)
    (l : CallLedger) : (l.call c).1 = ⟨id, c.name⟩ ∧ (l.call c).2.madeUp = l.madeUp := by
  simp only [call, own, and_self]

theorem call_none {c : FunctionCall} (none : given c.callId = none) (l : CallLedger) :
    (l.call c).1 = ⟨l.nextId, c.name⟩ ∧ (l.call c).2.madeUp = l.madeUp + 1 := by
  simp only [call, none, and_self]

end CallLedger

namespace Transcript

def ledgerAfter (l : CallLedger) (items : List Item) : CallLedger :=
  items.foldl (fun l item => (step l item).2) l

theorem after_cons (l : CallLedger) (item : Item) (rest : List Item) :
    after l (item :: rest) = (step l item).1.toList ++ after (step l item).2 rest := rfl

theorem after_append (l : CallLedger) (items more : List Item) :
    after l (items ++ more) = after l items ++ after (ledgerAfter l items) more := by
  induction items generalizing l with
  | nil => rfl
  | cons item rest ih =>
    rw [List.cons_append, after_cons, ih, after_cons, List.append_assoc]
    rfl

/-- More items do not change what the first ones say. -/
theorem prefix_ofItems_append (items more : List Item) :
    ofItems items <+: ofItems (items ++ more) :=
  ⟨_, (after_append .empty items more).symm⟩

end Transcript
end ChatRelay
