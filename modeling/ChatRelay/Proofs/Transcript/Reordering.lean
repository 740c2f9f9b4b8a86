import ChatRelay.Proofs.Transcript.Pairing
import Mathlib.Data.List.Nodup

/-!
# Outputs that name their calls

An output that names a pending call takes this call from the queue, wherever it stands, and leaves
the others in their order. Outputs that name different calls therefore do not get in each other's
way: in whatever order they come, each is resolved to its own call, and the same calls are left. A
conversation in which they come in another order says the same results in that order, and the same
otherwise.
-/
namespace ChatRelay.CallLedger

/-- A ledger to which calls and outputs lead. -/
inductive Reachable : CallLedger → Prop where
  | empty : Reachable .empty
  | use {l : CallLedger} (reachable : Reachable l) (u : Use) : Reachable (l.use u).2

/-- What outputs are resolved to one after another, and the ledger after them. -/
def outputs (l : CallLedger) : List FunctionOutput → List PendingCall × CallLedger
  | [] => ([], l)
  | o :: rest =>
    let others := outputs (l.output o).2 rest
    ((l.output o).1 :: others.1, others.2)

/-- No two calls have the same id, and each has one. -/
structure Distinct (l : CallLedger) : Prop where
  nodup : (l.pending.map PendingCall.id).Nodup
  nonempty : ∀ p ∈ l.pending, p.id ≠ ""

/-- Each output names a pending call, and no two name the same. -/
structure Named (l : CallLedger) (outs : List FunctionOutput) : Prop where
  pending : ∀ o ∈ outs, ∃ p ∈ l.pending, o.callId = some p.id
  distinct : (outs.map FunctionOutput.callId).Nodup

/-- What an output is resolved to if it comes next. -/
def resolve (l : CallLedger) (o : FunctionOutput) : PendingCall := (l.output o).1

/-- The ledger without the calls that outputs name. -/
def without (l : CallLedger) (outs : List FunctionOutput) : CallLedger :=
  { l with pending := l.pending.filter fun p => some p.id ∉ outs.map FunctionOutput.callId }

theorem ne_empty_of_given {s : Option String} {id : String} (own : given s = some id) : id ≠ "" := by
  simpa using (Option.filter_eq_some_iff.1 own).2

theorem given_of_ne_empty {id : String} (nonempty : id ≠ "") : given (some id) = some id := by
  simp [given, nonempty]

theorem id_call_ne_empty (l : CallLedger) (c : FunctionCall) : (l.call c).1.id ≠ "" := by
  cases own : given c.callId with
  | some id =>
    rw [(call_own own l).1]
    exact ne_empty_of_given own
  | none =>
    rw [(call_none own l).1]
    simp [nextId]

/-- What an output leaves in the queue was there before. -/
theorem pending_output_subset (l : CallLedger) (o : FunctionOutput) :
    (l.output o).2.pending ⊆ l.pending := by
  have same : (l.output o).2 = (l.answered o).2 := rfl
  rw [same]
  cases wanted : l.pending.find? fun p => Wants o p with
  | none =>
    have unwanted : ∀ q ∈ l.pending, ¬ Wants o q := by simpa using wanted
    rw [pending_answered_of_unwanted unwanted]
    exact List.Subset.refl _
  | some p =>
    obtain ⟨wants, older, newer, split, passed⟩ := List.find?_eq_some_iff_append.1 wanted
    rw [answered_of_split split (by simpa using passed) (by simpa using wants), split]
    exact List.append_subset.2 ⟨List.subset_append_left _ _,
      fun q member => List.mem_append_right _ (List.mem_cons_of_mem p member)⟩

theorem Reachable.id_ne_empty {l : CallLedger} (reachable : l.Reachable) :
    ∀ p ∈ l.pending, p.id ≠ "" := by
  induction reachable with
  | empty => exact fun _ member => absurd member List.not_mem_nil
  | @use l _ u ih =>
    intro p member
    cases u with
    | call c =>
      have queue : (l.use (.call c)).2.pending = l.pending ++ [(l.call c).1] := pending_call l c
      rw [queue] at member
      rcases List.mem_append.1 member with before | here
      · exact ih p before
      · rw [List.mem_singleton.1 here]
        exact l.id_call_ne_empty c
    | output o => exact ih p (l.pending_output_subset o member)

theorem Reachable.distinct {l : CallLedger} (reachable : l.Reachable)
    (nodup : (l.pending.map PendingCall.id).Nodup) : l.Distinct := ⟨nodup, reachable.id_ne_empty⟩

section

variable {l : CallLedger} {o : FunctionOutput} {p : PendingCall} {outs : List FunctionOutput}

theorem wants_iff_of_callId (nonempty : p.id ≠ "") (named : o.callId = some p.id)
    (q : PendingCall) : Wants o q ↔ q.id = p.id :=
  wants_of_id (by rw [named, given_of_ne_empty nonempty])

/-- An output that names a pending call is resolved to it, and takes just it away. -/
theorem Distinct.output_eq (distinct : l.Distinct) (member : p ∈ l.pending)
    (named : o.callId = some p.id) :
    l.output o = (⟨p.id, (given o.name).getD p.name⟩, l.without [o]) := by
  obtain ⟨older, newer, split⟩ := List.append_of_mem member
  have wants := wants_iff_of_callId (distinct.nonempty p member) named
  have nodup := distinct.nodup
  simp only [split, List.map_append, List.map_cons, List.nodup_append, List.nodup_cons,
    List.mem_cons, List.mem_map] at nodup
  obtain ⟨-, ⟨behind, -⟩, before⟩ := nodup
  have passed : ∀ q ∈ older, q.id ≠ p.id := fun q among =>
    before q.id ⟨q, among, rfl⟩ p.id (.inl rfl)
  have later : ∀ q ∈ newer, q.id ≠ p.id := fun q among same => behind ⟨q, among, same⟩
  have answered : l.answered o = (p, { l with pending := older ++ newer }) :=
    answered_of_split split (fun q among wanted => passed q among ((wants q).1 wanted))
      ((wants p).2 rfl)
  have left : l.without [o] = { l with pending := older ++ newer } := by
    simp only [without, split, List.map_singleton, named, List.mem_singleton, Option.some.injEq,
      List.filter_append]
    rw [List.filter_cons_of_neg (by simp), List.filter_eq_self.2 (by simpa using passed),
      List.filter_eq_self.2 (by simpa using later)]
  rw [output, answered, left]

theorem Distinct.without (distinct : l.Distinct) (outs : List FunctionOutput) :
    (l.without outs).Distinct where
  nodup := distinct.nodup.sublist (List.filter_sublist.map _)
  nonempty p member := distinct.nonempty p (List.mem_filter.1 member).1

theorem without_without (l : CallLedger) (o : FunctionOutput) (outs : List FunctionOutput) :
    (l.without [o]).without outs = l.without (o :: outs) := by
  simp [without, List.filter_filter, Bool.and_comm]

/-- Outputs name the same calls in any order. -/
theorem Named.perm {outs' : List FunctionOutput} (named : l.Named outs) (perm : outs'.Perm outs) :
    l.Named outs' where
  pending o member := named.pending o (perm.subset member)
  distinct := ((perm.map _).nodup_iff).2 named.distinct

/-- The others name calls that the first output leaves. -/
theorem Named.tail (named : l.Named (o :: outs)) : (l.without [o]).Named outs := by
  obtain ⟨first, others⟩ := List.nodup_cons.1 named.distinct
  refine ⟨fun o' member => ?_, others⟩
  obtain ⟨p, among, same⟩ := named.pending o' (List.mem_cons_of_mem o member)
  refine ⟨p, List.mem_filter.2 ⟨among, ?_⟩, same⟩
  have apart : some p.id ≠ o.callId := fun equal =>
    first (equal ▸ same ▸ List.mem_map_of_mem member)
  simpa using apart

/-- The others are resolved as if the first output had not come. -/
theorem Named.resolve_without (distinct : l.Distinct) (named : l.Named (o :: outs)) :
    ∀ o' ∈ outs, (l.without [o]).resolve o' = l.resolve o' := by
  intro o' member
  obtain ⟨p, among, same⟩ := named.tail.pending o' member
  rw [resolve, resolve, (distinct.without [o]).output_eq among same,
    distinct.output_eq (List.mem_filter.1 among).1 same]

end

/-- Outputs that name different calls are each resolved as if it came first, and leave the calls
that they do not name. -/
theorem Named.outputs_eq {l : CallLedger} {outs : List FunctionOutput} (distinct : l.Distinct)
    (named : l.Named outs) : l.outputs outs = (outs.map l.resolve, l.without outs) := by
  induction outs generalizing l with
  | nil => simp [outputs, without]
  | cons o rest ih =>
    obtain ⟨p, member, same⟩ := named.pending o List.mem_cons_self
    have after : (l.output o).2 = l.without [o] := by rw [distinct.output_eq member same]
    have others := ih (distinct.without [o]) named.tail
    rw [outputs, after, others, without_without, List.map_cons,
      List.map_congr_left (named.resolve_without distinct)]
    rfl

theorem without_perm {outs outs' : List FunctionOutput} (perm : outs'.Perm outs)
    (l : CallLedger) : l.without outs' = l.without outs := by
  simp [without, (perm.map FunctionOutput.callId).mem_iff]

/-- In whatever order outputs come that name different pending calls, each is resolved to its own
call, with its own name before that of the call, and the ledger is the same after them. -/
theorem outputs_of_perm {l : CallLedger} {outs outs' : List FunctionOutput} (distinct : l.Distinct)
    (named : l.Named outs) (perm : outs'.Perm outs) :
    l.outputs outs' = (outs'.map l.resolve, l.without outs) ∧
      ∀ o ∈ outs, ∃ p ∈ l.pending, o.callId = some p.id ∧
        l.resolve o = ⟨p.id, (given o.name).getD p.name⟩ := by
  refine ⟨?_, fun o member => ?_⟩
  · rw [(named.perm perm).outputs_eq distinct, without_perm perm]
  · obtain ⟨p, among, same⟩ := named.pending o member
    exact ⟨p, among, same, congrArg Prod.fst (distinct.output_eq among same)⟩

/-- What an output says if it comes next. -/
def answer (l : CallLedger) (o : FunctionOutput) : Utterance :=
  .result (l.resolve o).id (l.resolve o).name o.output

end ChatRelay.CallLedger

namespace ChatRelay.Transcript

open CallLedger

/-- Each item leads from a ledger within reach to another one. -/
theorem reachable_step {l : CallLedger} (reachable : l.Reachable) (item : Item) :
    (step l item).2.Reachable := by
  cases item with
  | message role content => exact reachable
  | text role content => exact reachable
  | call c => exact reachable.use (.call c)
  | output o => exact reachable.use (.output o)
  | unknown => exact reachable

theorem reachable_ledgerAfter {l : CallLedger} (reachable : l.Reachable) (items : List Item) :
    (ledgerAfter l items).Reachable := by
  induction items generalizing l with
  | nil => exact reachable
  | cons item rest ih => exact ih (reachable_step reachable item)

/-- Outputs say what they are resolved to, and what follows depends on the ledger they leave. -/
theorem after_outputs (l : CallLedger) (outs : List FunctionOutput) (later : List Item) :
    after l (outs.map .output ++ later) =
      List.zipWith (fun p o => .result p.id p.name o.output) (l.outputs outs).1 outs ++
        after (l.outputs outs).2 later := by
  induction outs generalizing l with
  | nil => rfl
  | cons o rest ih =>
    rw [List.map_cons, List.cons_append, after_cons, outputs]
    exact congrArg (.result (l.output o).1.id (l.output o).1.name o.output :: ·) (ih (l.output o).2)

/-- A conversation with outputs that name different pending calls. What comes after them depends
only on which calls they name. -/
theorem ofItems_outputs {before : List Item} {outs : List FunctionOutput}
    (distinct : (ledgerAfter .empty before).Distinct)
    (named : (ledgerAfter .empty before).Named outs) (later : List Item) :
    ofItems (before ++ outs.map .output ++ later) =
      ofItems before ++ outs.map (ledgerAfter .empty before).answer ++
        after ((ledgerAfter .empty before).without outs) later := by
  rw [ofItems, List.append_assoc, after_append, after_outputs, named.outputs_eq distinct,
    List.zipWith_map_left, List.zipWith_self, ← List.append_assoc]
  rfl

end ChatRelay.Transcript
