import ChatRelay.Proofs.Transcript.Answers
import Mathlib.Data.List.Forall2
import Mathlib.Data.List.Induction

/-!
# Calls and outputs in pairs

Over a run of the ledger the calls are numbered in the order in which they are recorded, and a
register is kept of them beside the ledger's queue: which calls there are, and the numbers of those
that outputs have consumed. The queue holds exactly the calls of the register that are not consumed,
in their order. So no call is lost, none is consumed twice, and an output consumes the oldest call
that it may.
-/
namespace ChatRelay.CallLedger

/-- One use of the ledger. -/
inductive Use where
  | call (c : FunctionCall)
  | output (o : FunctionOutput)
  deriving Repr

/-- What a use returns, and the ledger after it. -/
def use (l : CallLedger) : Use → PendingCall × CallLedger
  | .call c => l.call c
  | .output o => l.output o

def Use.call? : Use → Option FunctionCall
  | .call c => some c
  | .output _ => none

/-- Whether an output may consume a call: one with an id may consume calls of that id only. -/
def Wants (o : FunctionOutput) (p : PendingCall) : Prop :=
  ∀ id, given o.callId = some id → p.id = id

instance (o : FunctionOutput) (p : PendingCall) : Decidable (Wants o p) :=
  decidable_of_iff ((given o.callId).all fun id => p.id = id)
    (by cases own : given o.callId <;> simp [Wants, own])

theorem wants_of_id {o : FunctionOutput} {p : PendingCall} {id : String}
    (own : given o.callId = some id) : Wants o p ↔ p.id = id := by
  simp [Wants, own]

theorem wants_of_none {o : FunctionOutput} {p : PendingCall} (own : given o.callId = none) :
    Wants o p := by
  simp [Wants, own]

theorem take?_of_split {id : String} {older newer : List PendingCall} {p : PendingCall}
    (others : ∀ q ∈ older, q.id ≠ id) (same : p.id = id) :
    take? id (older ++ p :: newer) = some (p, older ++ newer) := by
  induction older with
  | nil => simp [take?, same]
  | cons q rest ih =>
    have different : q.id ≠ id := others q List.mem_cons_self
    have found := ih fun r member => others r (List.mem_cons_of_mem _ member)
    simp [take?, different, found]

theorem take?_eq_none {id : String} {pending : List PendingCall}
    (others : ∀ q ∈ pending, q.id ≠ id) : take? id pending = none := by
  have absent : (pending.find? fun q => q.id = id) = none := by simpa using others
  rwa [← take?_fst, Option.map_eq_none_iff] at absent

section

variable {l : CallLedger} {o : FunctionOutput}

/-- The oldest pending call that an output may consume leaves the queue, the others stay. -/
theorem answered_of_split {older newer : List PendingCall} {p : PendingCall}
    (split : l.pending = older ++ p :: newer) (passed : ∀ q ∈ older, ¬ Wants o q)
    (wanted : Wants o p) : l.answered o = (p, { l with pending := older ++ newer }) := by
  cases own : given o.callId with
  | some id =>
    simp only [wants_of_id own] at passed wanted
    simp [answered, own, split, take?_of_split passed wanted]
  | none =>
    -- without an id every call may be consumed, so none has been passed over
    have first : older = [] := by
      apply List.eq_nil_iff_forall_not_mem.2
      intro q member
      exact passed q member (wants_of_none own)
    subst first
    simp [answered, own, split]

/-- An output that may consume no pending call leaves the queue as it is. -/
theorem pending_answered_of_unwanted (unwanted : ∀ q ∈ l.pending, ¬ Wants o q) :
    (l.answered o).2.pending = l.pending := by
  cases own : given o.callId with
  | some id =>
    simp only [wants_of_id own] at unwanted
    simp [answered, own, take?_eq_none unwanted]
  | none =>
    have empty : l.pending = [] := by
      apply List.eq_nil_iff_forall_not_mem.2
      intro q member
      exact unwanted q member (wants_of_none own)
    simp [answered, own, empty]

end

theorem pending_call (l : CallLedger) (c : FunctionCall) :
    (l.call c).2.pending = l.pending ++ [(l.call c).1] := by
  unfold call
  split <;> rfl

/-- All calls in the order in which they were recorded, and the numbers of those that outputs have
consumed, in the order of the outputs. -/
structure Register where
  calls : List PendingCall
  consumed : List Nat
  deriving Repr

namespace Register

/-- The calls that no output has consumed, each with its number. -/
def waiting (b : Register) : List (PendingCall × Nat) :=
  b.calls.zipIdx.filter fun x => x.2 ∉ b.consumed

/-- The call that an output consumes: the first that waits and that it may consume. -/
def consumes? (b : Register) (o : FunctionOutput) : Option (PendingCall × Nat) :=
  b.waiting.find? fun x => Wants o x.1

/-- Enters a use that has returned a call. -/
def enter (b : Register) (returned : PendingCall) : Use → Register
  | .call _ => { b with calls := b.calls ++ [returned] }
  | .output o => { b with consumed := b.consumed ++ ((b.consumes? o).map Prod.snd).toList }

/-- Of the calls that wait and that an output may consume, the oldest. -/
structure IsOldest (b : Register) (o : FunctionOutput) (p : PendingCall) (i : Nat) : Prop where
  recorded : b.calls[i]? = some p
  waits : i ∉ b.consumed
  wanted : Wants o p
  oldest : ∀ j q, b.calls[j]? = some q → j ∉ b.consumed → Wants o q → i ≤ j

variable {b : Register} {o : FunctionOutput} {p : PendingCall} {i : Nat}

theorem mem_waiting : (p, i) ∈ b.waiting ↔ b.calls[i]? = some p ∧ i ∉ b.consumed := by
  simp [waiting, List.mem_zipIdx_iff_getElem?]

/-- Calls wait in the order of their numbers. -/
theorem pairwise_waiting (b : Register) : (b.waiting.map Prod.snd).Pairwise (· < ·) := by
  have numbers : (b.waiting.map Prod.snd).Sublist (b.calls.zipIdx.map Prod.snd) :=
    List.filter_sublist.map _
  rw [List.zipIdx_map_snd] at numbers
  exact List.Pairwise.sublist numbers List.pairwise_lt_range'

/-- A new call waits after the others. -/
theorem waiting_of_recorded (new : b.calls.length ∉ b.consumed) :
    { b with calls := b.calls ++ [p] : Register }.waiting =
      b.waiting ++ [(p, b.calls.length)] := by
  simp [waiting, List.zipIdx_append, new]

/-- The others wait as before when a call has been consumed. -/
theorem waiting_of_consumed {older newer : List (PendingCall × Nat)}
    (split : b.waiting = older ++ (p, i) :: newer) :
    { b with consumed := b.consumed ++ [i] : Register }.waiting = older ++ newer := by
  have distinct := b.pairwise_waiting.imp Nat.ne_of_lt
  simp only [split, List.map_append, List.map_cons, List.pairwise_append, List.pairwise_cons]
    at distinct
  have fewer : { b with consumed := b.consumed ++ [i] : Register }.waiting =
      b.waiting.filter fun x => x.2 ≠ i := by
    simp [waiting, List.filter_filter, and_comm]
  have before : ∀ x ∈ older, x.2 ≠ i := fun x member =>
    distinct.2.2 x.2 (List.mem_map_of_mem member) i List.mem_cons_self
  have behind : ∀ x ∈ newer, x.2 ≠ i := fun x member =>
    (distinct.2.1.1 x.2 (List.mem_map_of_mem member)).symm
  rw [fewer, split, List.filter_append, List.filter_cons_of_neg (by simp),
    List.filter_eq_self.2 (by simpa using before), List.filter_eq_self.2 (by simpa using behind)]

/-- The call that an output consumes is the oldest one of those that it may consume. -/
theorem consumes?_eq_some_iff :
    b.consumes? o = some (p, i) ↔ Wants o p ∧ ∃ older newer,
      b.waiting = older ++ (p, i) :: newer ∧ ∀ x ∈ older, ¬ Wants o x.1 := by
  simp [consumes?, List.find?_eq_some_iff_append]

theorem consumes?_eq_none_iff :
    b.consumes? o = none ↔ ∀ j q, b.calls[j]? = some q → j ∉ b.consumed → ¬ Wants o q := by
  simp only [consumes?, List.find?_eq_none, decide_eq_true_eq, Prod.forall, mem_waiting, and_imp]
  exact forall_comm

/-- What an output consumes is the oldest call that it may consume. -/
theorem isOldest_of_consumes? (consumes : b.consumes? o = some (p, i)) : b.IsOldest o p i := by
  obtain ⟨wanted, older, newer, split, passed⟩ := consumes?_eq_some_iff.1 consumes
  have member : (p, i) ∈ b.waiting := by simp [split]
  obtain ⟨recorded, waits⟩ := mem_waiting.1 member
  refine ⟨recorded, waits, wanted, fun j q recorded' waits' wanted' => ?_⟩
  have ordered := b.pairwise_waiting
  have among : (q, j) ∈ b.waiting := mem_waiting.2 ⟨recorded', waits'⟩
  simp only [split, List.map_append, List.map_cons, List.pairwise_append, List.pairwise_cons]
    at ordered
  simp only [split, List.mem_append, List.mem_cons] at among
  rcases among with before | here | after
  · exact absurd wanted' (passed (q, j) before)
  · simp_all
  · have later := ordered.2.1.1 j (List.mem_map_of_mem after)
    omega

end Register

/-- The ledger with the register of its calls. -/
structure Books where
  ledger : CallLedger
  register : Register

namespace Books

/-- The books after one more use. -/
def use (s : Books) (u : Use) : Books :=
  ⟨(s.ledger.use u).2, s.register.enter (s.ledger.use u).1 u⟩

/-- The books of a run that starts from the empty ledger. -/
def after (uses : List Use) : Books := uses.foldl use ⟨.empty, ⟨[], []⟩⟩

theorem after_append_singleton (uses : List Use) (u : Use) :
    after (uses ++ [u]) = (after uses).use u := by
  simp [after]

/-- The queue holds the calls that wait, and every number is either consumed or waits, but once. -/
structure Balanced (s : Books) : Prop where
  pending : s.ledger.pending = s.register.waiting.map Prod.fst
  partition : (s.register.consumed ++ s.register.waiting.map Prod.snd).Perm
    (List.range s.register.calls.length)

variable {s : Books}

theorem Balanced.lt_of_consumed (balanced : s.Balanced) {i : Nat}
    (consumed : i ∈ s.register.consumed) : i < s.register.calls.length := by
  have member := balanced.partition.subset (List.mem_append_left _ consumed)
  simpa using member

/-- A call that is recorded waits after all others. -/
theorem Balanced.call (balanced : s.Balanced) (c : FunctionCall) : (s.use (.call c)).Balanced := by
  have new : s.register.calls.length ∉ s.register.consumed := by
    intro consumed
    have := balanced.lt_of_consumed consumed
    omega
  have waiting : (s.use (.call c)).register.waiting =
      s.register.waiting ++ [((s.ledger.call c).1, s.register.calls.length)] :=
    Register.waiting_of_recorded new
  constructor
  · rw [waiting, List.map_append, ← balanced.pending]
    exact pending_call s.ledger c
  · have numbers := balanced.partition.append_right [s.register.calls.length]
    rw [waiting, List.map_append, ← List.append_assoc]
    simpa [use, CallLedger.use, Register.enter, List.range_succ] using numbers

/-- An output that consumes a call takes it out of the queue and from those that wait. -/
theorem Balanced.consume (balanced : s.Balanced) {o : FunctionOutput} {p : PendingCall} {i : Nat}
    (consumes : s.register.consumes? o = some (p, i)) :
    (s.use (.output o)).Balanced ∧
      (s.use (.output o)).register.consumed = s.register.consumed ++ [i] ∧
      (s.ledger.answered o).1 = p := by
  have entered : (s.use (.output o)).register =
      { s.register with consumed := s.register.consumed ++ [i] } := by
    simp [use, Register.enter, consumes]
  obtain ⟨wanted, older, newer, split, passed⟩ := Register.consumes?_eq_some_iff.1 consumes
  have waiting : (s.use (.output o)).register.waiting = older ++ newer := by
    rw [entered]
    exact Register.waiting_of_consumed split
  have answered : s.ledger.answered o =
      (p, { s.ledger with pending := older.map Prod.fst ++ newer.map Prod.fst }) := by
    apply answered_of_split _ _ wanted
    · simp [balanced.pending, split]
    · simpa using passed
  refine ⟨⟨?_, ?_⟩, by rw [entered], by rw [answered]⟩
  · have queue : (s.use (.output o)).ledger.pending = (s.ledger.answered o).2.pending := rfl
    rw [queue, answered, waiting, List.map_append]
  · have numbers := balanced.partition
    rw [split, List.map_append, List.map_cons] at numbers
    rw [waiting, entered, List.map_append, List.append_assoc, List.singleton_append]
    exact (List.Perm.append_left _ List.perm_middle.symm).trans numbers

/-- An output that consumes nothing leaves the queue and the register as they are. -/
theorem Balanced.pass (balanced : s.Balanced) {o : FunctionOutput}
    (passes : s.register.consumes? o = none) :
    (s.use (.output o)).Balanced ∧ (s.use (.output o)).register = s.register ∧
      (s.ledger.output o).2.pending = s.ledger.pending := by
  have entered : (s.use (.output o)).register = s.register := by
    simp [use, Register.enter, passes]
  have unchanged : (s.ledger.answered o).2.pending = s.ledger.pending := by
    apply pending_answered_of_unwanted
    intro q member
    rw [balanced.pending] at member
    obtain ⟨⟨q, j⟩, waits, rfl⟩ := List.mem_map.1 member
    obtain ⟨recorded, open'⟩ := Register.mem_waiting.1 waits
    exact Register.consumes?_eq_none_iff.1 passes j q recorded open'
  refine ⟨⟨?_, ?_⟩, entered, unchanged⟩
  · rw [entered, ← balanced.pending]
    exact unchanged
  · rw [entered]
    exact balanced.partition

/-- Each use keeps the books balanced. -/
theorem Balanced.step (balanced : s.Balanced) (u : Use) : (s.use u).Balanced := by
  cases u with
  | call c => exact balanced.call c
  | output o =>
    cases consumes : s.register.consumes? o with
    | some x => exact (balanced.consume consumes).1
    | none => exact (balanced.pass consumes).1

theorem balanced_after (uses : List Use) : (after uses).Balanced := by
  induction uses using List.reverseRecOn with
  | nil => exact ⟨rfl, .nil⟩
  | append_singleton uses u ih =>
    rw [after_append_singleton]
    exact ih.step u

/-- A call is recorded with its name, and with its own id if it has one. -/
def Records (c : FunctionCall) (p : PendingCall) : Prop :=
  p.name = c.name ∧ ∀ id, given c.callId = some id → p.id = id

theorem records_call (l : CallLedger) (c : FunctionCall) : Records c (l.call c).1 := by
  refine ⟨call_name l c, fun id own => ?_⟩
  rw [(call_own own l).1]

/-- The register has a call for each that was recorded, in the same order. -/
theorem calls_after (uses : List Use) :
    List.Forall₂ Records (uses.filterMap Use.call?) (after uses).register.calls := by
  induction uses using List.reverseRecOn with
  | nil => exact .nil
  | append_singleton uses u ih =>
    rw [after_append_singleton, List.filterMap_append]
    cases u with
    | call c => exact List.rel_append ih (.cons (records_call _ c) .nil)
    | output o =>
      have noCall : [Use.output o].filterMap Use.call? = [] := rfl
      rw [noCall, List.append_nil]
      exact ih

/-- What one more output does: it consumes the oldest call that it may consume and returns that
call's id, with its own name before the call's, or there is no such call and it changes nothing. -/
inductive Answers (s : Books) (o : FunctionOutput) : Prop where
  | consumes {p : PendingCall} {i : Nat} (oldest : s.register.IsOldest o p i)
      (consumed : (s.use (.output o)).register.consumed = s.register.consumed ++ [i])
      (returned : (s.ledger.output o).1 = ⟨p.id, (given o.name).getD p.name⟩)
  | nothing
      (unwanted : ∀ i p, s.register.calls[i]? = some p → i ∉ s.register.consumed → ¬ Wants o p)
      (consumed : (s.use (.output o)).register = s.register)
      (pending : (s.ledger.output o).2.pending = s.ledger.pending)

/-- With balanced books an output does what it should, whether it finds a call or not. -/
theorem Balanced.answers (balanced : s.Balanced) (o : FunctionOutput) : s.Answers o := by
  cases consumes : s.register.consumes? o with
  | some x =>
    obtain ⟨p, i⟩ := x
    obtain ⟨-, consumed, answered⟩ := balanced.consume consumes
    refine .consumes (Register.isOldest_of_consumes? consumes) consumed ?_
    rw [← answered]
    rfl
  | none =>
    obtain ⟨-, register, pending⟩ := balanced.pass consumes
    exact .nothing (Register.consumes?_eq_none_iff.1 consumes) register pending

end Books

/-- Whatever calls and outputs the ledger is used for, in whatever order: its queue holds the calls
recorded and not consumed, in the order in which they were recorded; each call is consumed once or
waits; and every further output is answered by the oldest call that it may consume. -/
theorem uses_pair (uses : List Use) :
    let s := Books.after uses
    List.Forall₂ Books.Records (uses.filterMap Use.call?) s.register.calls ∧
      s.ledger.pending = s.register.waiting.map Prod.fst ∧
      (s.register.consumed ++ s.register.waiting.map Prod.snd).Perm
        (List.range s.register.calls.length) ∧
      ∀ o, s.Answers o := by
  have balanced := Books.balanced_after uses
  exact ⟨Books.calls_after uses, balanced.pending, balanced.partition, balanced.answers⟩

/-- Of two calls with one id the older is answered first, and a stray output answers neither. -/
example : (Books.after [.call ⟨"find", .null, some "x"⟩, .call ⟨"open", .null, none⟩,
    .call ⟨"read", .null, some "x"⟩, .output ⟨some "x", none, .null⟩,
    .output ⟨some "y", none, .null⟩]).ledger.pending = [⟨"call_1", "open"⟩, ⟨"x", "read"⟩] := by
  decide

end ChatRelay.CallLedger
