import ChatRelay.Proofs.Transcript.Ledger
import ChatRelay.Proofs.Vendor.Reading
import Mathlib

/-!
# The ids of calls

A call is sent with its own id or, if it brings none, with one that is made up by counting. The
counting never repeats itself, but it does not look at the ids that calls bring along. So ids are
distinct if calls bring distinct ones and no made-up id is among them, and only then.
-/
namespace ChatRelay

namespace Item

/-- The id that a call brings along. -/
def ownId? : Item → Option String
  | .call c => CallLedger.given c.callId
  | _ => none

/-- Whether an item is a call or an output that brings no id along. -/
def lacksId : Item → Bool
  | .call c => (CallLedger.given c.callId).isNone
  | .output o => (CallLedger.given o.callId).isNone
  | _ => false

end Item

namespace CallLedger

/-- Made-up ids with different numbers are different. -/
theorem madeUpId_injective : Function.Injective madeUpId := by
  intro j k same
  exact Nat.repr_inj.1 ((String.append_right_inj "call_").1 same)

end CallLedger

namespace Transcript

open CallLedger

def ownIds (items : List Item) : List String := items.filterMap Item.ownId?

/-- The id that is made up for an item if it is a call without one. -/
def madeUpId? (l : CallLedger) (item : Item) : Option String :=
  match item with
  | .call c => if (given c.callId).isNone then some l.nextId else none
  | _ => none

/-- The ids made up for calls after the calls of a ledger. -/
def madeUpIdsAfter (l : CallLedger) : List Item → List String
  | [] => []
  | item :: rest => (madeUpId? l item).toList ++ madeUpIdsAfter (step l item).2 rest

def madeUpIds (items : List Item) : List String := madeUpIdsAfter .empty items

/-- The ids that the calls of a transcript are sent with. -/
def callIds (t : Transcript) : List String := (t.filterMap Utterance.call?).map SentCall.id

theorem callIds_append (t more : Transcript) : callIds (t ++ more) = callIds t ++ callIds more := by
  rw [callIds, List.filterMap_append, List.map_append]
  rfl

theorem callIds_utterance? (role : Role) (text : String) :
    callIds (utterance? role text).toList = [] := by
  unfold utterance?
  split
  · rfl
  · cases role <;> rfl

/-- The id that one item is sent with is its own or made up, if the item is a call. -/
theorem callIds_step (l : CallLedger) (item : Item) :
    callIds (step l item).1.toList = item.ownId?.toList ++ (madeUpId? l item).toList := by
  cases item with
  | message role content => exact callIds_utterance? role content.plainText
  | text role content => exact callIds_utterance? _ content.plainText
  | call c =>
    have sent : callIds (step l (.call c)).1.toList = [(l.call c).1.id] := rfl
    cases own : given c.callId with
    | none => simp [sent, call_none own, Item.ownId?, madeUpId?, own]
    | some id => simp [sent, call_own own, Item.ownId?, madeUpId?, own]
  | output o => rfl
  | unknown => rfl

/-- The ids of all calls are those that they bring along and those made up for the others. -/
theorem callIds_after_perm (l : CallLedger) (items : List Item) :
    (callIds (after l items)).Perm (ownIds items ++ madeUpIdsAfter l items) := by
  induction items generalizing l with
  | nil => exact .refl _
  | cons item rest ih =>
    have own : ownIds (item :: rest) = item.ownId?.toList ++ ownIds rest := by
      rw [ownIds, List.filterMap_cons]
      cases item.ownId? <;> rfl
    rw [after_cons, callIds_append, callIds_step, own, madeUpIdsAfter, List.append_assoc,
      List.append_assoc]
    refine List.Perm.append_left _ ?_
    -- what is made up for the item changes places with what the others bring along
    have others := (ih (step l item).2).append_left (madeUpId? l item).toList
    exact others.trans (List.perm_append_comm_assoc _ _ _)

/-- An item without an id may count one further, and no other item does. -/
theorem madeUp_step (l : CallLedger) (item : Item) :
    l.madeUp ≤ (step l item).2.madeUp ∧
      (step l item).2.madeUp ≤ l.madeUp + item.lacksId.toNat := by
  cases item with
  | call c =>
    have after : (step l (.call c)).2 = (l.call c).2 := rfl
    rw [after]
    cases own : given c.callId with
    | none => simp [call_none own, Item.lacksId, own]
    | some id => simp [call_own own]
  | output o =>
    have after : (step l (.output o)).2 = (l.answered o).2 := rfl
    rw [after]
    cases own : given o.callId with
    | some id =>
      simp only [answered, own]
      split <;> exact ⟨Nat.le_refl _, Nat.le_add_right _ _⟩
    | none =>
      have lacks : (Item.output o).lacksId = true := by simp [Item.lacksId, own]
      simp only [answered, own, lacks, Bool.toNat_true]
      split
      · exact ⟨Nat.le_refl _, Nat.le_add_right _ _⟩
      · exact ⟨Nat.le_add_right _ _, Nat.le_refl _⟩
  | message role content => exact ⟨Nat.le_refl _, Nat.le_add_right _ _⟩
  | text role content => exact ⟨Nat.le_refl _, Nat.le_add_right _ _⟩
  | unknown => exact ⟨Nat.le_refl _, Nat.le_add_right _ _⟩

/-- Made-up ids go on from the number of those made up before, and there are no more of them than
items that lack one. -/
theorem exists_of_mem_madeUpIdsAfter {l : CallLedger} {items : List Item} {id : String}
    (member : id ∈ madeUpIdsAfter l items) :
    ∃ k, l.madeUp < k ∧ k ≤ l.madeUp + items.countP Item.lacksId ∧ id = madeUpId k := by
  induction items generalizing l with
  | nil => cases member
  | cons item rest ih =>
    have count : (item :: rest).countP Item.lacksId =
        rest.countP Item.lacksId + item.lacksId.toNat := by
      cases lacks : item.lacksId <;> simp [lacks]
    obtain ⟨grows, bounded⟩ := madeUp_step l item
    rw [madeUpIdsAfter, List.mem_append] at member
    rcases member with here | there
    · unfold madeUpId? at here
      split at here
      · rename_i c
        split at here
        · rename_i lacks
          have one : (Item.call c).lacksId = true := lacks
          simp only [Option.toList_some, List.mem_singleton] at here
          exact ⟨l.madeUp + 1, Nat.lt_succ_self _, by simp [count, one], here⟩
        · cases here
      · cases here
    · obtain ⟨k, lower, upper, named⟩ := ih there
      exact ⟨k, by omega, by omega, named⟩

theorem nodup_madeUpIdsAfter (l : CallLedger) (items : List Item) :
    (madeUpIdsAfter l items).Nodup := by
  induction items generalizing l with
  | nil => exact .nil
  | cons item rest ih =>
    rw [madeUpIdsAfter]
    unfold madeUpId?
    split
    · rename_i c
      cases own : given c.callId with
      | some id => simpa using ih _
      | none =>
        simp only [Option.isNone_none, if_true, Option.toList_some, List.singleton_append]
        refine List.nodup_cons.2 ⟨fun member => ?_, ih _⟩
        -- the ids that follow have greater numbers
        obtain ⟨k, lower, _, same⟩ := exists_of_mem_madeUpIdsAfter member
        have counted : (step l (.call c)).2.madeUp = l.madeUp + 1 := (call_none own l).2
        have equal := madeUpId_injective ((nextId_eq l).symm.trans same)
        omega
    · exact ih _

/-- The ids of calls are distinct exactly if none that a call brings along is made up as well. -/
theorem nodup_callIds_iff {items : List Item} (distinct : (ownIds items).Nodup) :
    (callIds (ofItems items)).Nodup ↔ ∀ id ∈ ownIds items, id ∉ madeUpIds items := by
  rw [ofItems, (callIds_after_perm .empty items).nodup_iff, List.nodup_append]
  constructor
  · rintro ⟨_, _, apart⟩ id own madeUp
    exact apart id own id madeUp rfl
  · intro apart
    refine ⟨distinct, nodup_madeUpIdsAfter .empty items, fun id own other madeUp same => ?_⟩
    exact apart id own (same ▸ madeUp)

end Transcript
end ChatRelay
