import ChatRelay.Proofs.Transcript.Ledger

/-!
# Which call an output answers

An output with an id answers the oldest pending call of that id, one without an id the oldest call
of all. It is sent with its own name if it has one, else with that of the call; an output that
answers no call borrows the name of the oldest one.
-/
namespace ChatRelay.CallLedger

/-- The pending call that an output answers. -/
def answers? (l : CallLedger) (o : FunctionOutput) : Option PendingCall :=
  match given o.callId with
  | some id => l.pending.find? fun p => p.id = id
  | none => l.pending.head?

theorem take?_fst (id : String) (pending : List PendingCall) :
    (take? id pending).map Prod.fst = pending.find? fun p => p.id = id := by
  induction pending with
  | nil => rfl
  | cons p rest ih =>
    rw [take?, List.find?_cons]
    by_cases same : p.id = id
    · simp [same]
    · simp only [same, if_false, decide_false, ← ih, Option.map_map]
      rfl

/-- The name that an output takes over if it has none of its own. -/
def borrowedName (l : CallLedger) (o : FunctionOutput) : String :=
  match l.answers? o with
  | some p => p.name
  | none => l.oldestName

theorem answered_name (l : CallLedger) (o : FunctionOutput) :
    (l.answered o).1.name = l.borrowedName o := by
  unfold answered borrowedName answers?
  cases given o.callId with
  | none => cases pending : l.pending <;> simp [oldestName, pending]
  | some id =>
    dsimp only
    rw [← take?_fst]
    cases take? id l.pending <;> rfl

theorem output_name (l : CallLedger) (o : FunctionOutput) :
    (l.output o).1.name = (given o.name).getD (l.borrowedName o) :=
  congrArg (given o.name).getD (l.answered_name o)

/-- An output that nothing names: it has no name itself, and either the call it answers has none, or
it answers no call and no oldest pending call has one. -/
structure Unnamed (l : CallLedger) (o : FunctionOutput) : Prop where
  own : given o.name = none
  borrowed : (∃ p, l.answers? o = some p ∧ p.name = "") ∨
    l.answers? o = none ∧ ∀ p, l.pending.head? = some p → p.name = ""

/-- Only such an output is sent without a name. -/
theorem output_name_eq_empty_iff (l : CallLedger) (o : FunctionOutput) :
    (l.output o).1.name = "" ↔ l.Unnamed o := by
  have oldest : l.oldestName = "" ↔ ∀ p, l.pending.head? = some p → p.name = "" := by
    unfold oldestName
    cases l.pending.head? <;> simp
  rw [output_name]
  cases own : given o.name with
  | some name =>
    refine ⟨fun empty => ?_, fun unnamed => nomatch own.symm.trans unnamed.own⟩
    have kept := (Option.filter_eq_some_iff.1 own).2
    simp_all
  | none =>
    unfold borrowedName
    cases answers : l.answers? o with
    | some p =>
      refine ⟨fun empty => ⟨own, .inl ⟨p, answers, empty⟩⟩, fun unnamed => ?_⟩
      rcases unnamed.borrowed with ⟨q, same, empty⟩ | ⟨none, _⟩
      · cases answers.symm.trans same
        exact empty
      · cases answers.symm.trans none
    | none =>
      refine ⟨fun empty => ⟨own, .inr ⟨answers, oldest.1 empty⟩⟩, fun unnamed => ?_⟩
      rcases unnamed.borrowed with ⟨q, same, _⟩ | ⟨_, empty⟩
      · cases answers.symm.trans same
      · exact oldest.2 empty

end ChatRelay.CallLedger
