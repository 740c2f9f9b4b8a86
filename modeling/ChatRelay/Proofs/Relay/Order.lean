import ChatRelay.Proofs.Relay.Ownership

/-!
# The order of turns

The turns that have been let in, in the order in which they got the locks of their sessions, and the
turns that have been recorded. At any time the turns of one session have been recorded in the order
in which they were let in, and the history of the session is what they have added to it.
-/
namespace ChatRelay

def Turn.newItems (t : Turn) : List Item :=
  match Input.parse t.request.input with
  | .ok items => items
  | .error _ => []

namespace Relay

def isOf (turns : List Turn) (id : String) (i : Nat) : Bool :=
  match turns[i]? with
  | some t => t.session = id
  | none => false

/-- Whether a turn has ended complete, and so is recorded. -/
def isRecorded (phase : Nat → Phase) (i : Nat) : Bool := (phase i).completion?.isSome

/-- What a recorded turn adds to the history of its session: its new items and the output. -/
def contribution (turns : List Turn) (phase : Nat → Phase) (i : Nat) : List Item :=
  match turns[i]?, (phase i).completion? with
  | some t, some r => t.newItems ++ r.output
  | _, _ => []

/-- Turns let in and turns recorded, oldest first, as they stand to the phases and the store. -/
structure InOrder (turns : List Turn) (initial : Store) (phase : Nat → Phase) (store : Store)
    (acquired recorded : List Nat) : Prop where
  entered : ∀ i ∈ acquired, phase i ≠ .ready ∧ ∀ c, phase i ≠ .queued c
  nodup : acquired.Nodup
  last : ∀ {i c left id}, phase i = .calling c left → isOf turns id i = true →
    (acquired.filter (isOf turns id)).getLast? = some i
  every : ∀ i, isRecorded phase i = true → i ∈ acquired
  order : ∀ id, recorded.filter (isOf turns id) =
    (acquired.filter (isOf turns id)).filter (isRecorded phase)
  history : ∀ id, store.history id =
    initial.history id ++ (recorded.filter (isOf turns id)).flatMap (contribution turns phase)

theorem inOrder_start (turns : List Turn) (initial : Store) :
    InOrder turns initial (fun _ => .ready) initial [] [] where
  entered i member := by cases member
  nodup := .nil
  last calling := by cases calling
  every i recorded := by cases recorded
  order id := rfl
  history id := by simp

variable {turns : List Turn} {initial store : Store} {phase : Nat → Phase}
  {acquired recorded : List Nat} {i : Nat} {t : Turn} {c : CheckedTurn} {p : Phase}

theorem isOf_here (here : turns[i]? = some t) {id : String} :
    isOf turns id i = true ↔ t.session = id := by
  simp [isOf, here]

theorem isOf_other (here : turns[i]? = some t) {id : String} (other : t.session ≠ id) :
    isOf turns id i = false := by
  simp [isOf, here, other]

theorem exists_of_isOf {id : String} (ofId : isOf turns id i = true) :
    ∃ t, turns[i]? = some t ∧ t.session = id := by
  cases here : turns[i]? with
  | none =>
    rw [isOf, here] at ofId
    cases ofId
  | some t => exact ⟨t, rfl, (isOf_here here).1 ofId⟩

theorem isRecorded_update_of_ne {j : Nat} (different : j ≠ i) :
    isRecorded (Function.update phase i p) j = isRecorded phase j := by
  rw [isRecorded, Function.update_of_ne different, isRecorded]

theorem contribution_update_of_ne {j : Nat} (different : j ≠ i) :
    contribution turns (Function.update phase i p) j = contribution turns phase j := by
  rw [contribution, Function.update_of_ne different, contribution]

/-- A turn that is not recorded before nor after it moves on leaves all others as they are. -/
theorem isRecorded_update (before : isRecorded phase i = false) (after : p.completion? = none) :
    isRecorded (Function.update phase i p) = isRecorded phase := by
  funext j
  by_cases same : j = i
  · subst same
    rw [before, isRecorded, Function.update_self, after, Option.isSome_none]
  · exact isRecorded_update_of_ne same

theorem contribution_update (before : isRecorded phase i = false)
    (after : p.completion? = none) :
    contribution turns (Function.update phase i p) = contribution turns phase := by
  have absent : (phase i).completion? = none := by simpa [isRecorded] using before
  funext j
  by_cases same : j = i
  · subst same
    unfold contribution
    rw [Function.update_self, after, absent]
  · exact contribution_update_of_ne same

/-- A turn that moves on without getting a lock and without being recorded. -/
theorem InOrder.quiet (inOrder : InOrder turns initial phase store acquired recorded)
    (before : isRecorded phase i = false) (after : p.completion? = none)
    (entered : i ∈ acquired → p ≠ .ready ∧ ∀ c, p ≠ .queued c)
    (calling : ∀ c left, p = .calling c left → ∃ c left, phase i = .calling c left) :
    InOrder turns initial (Function.update phase i p) store acquired recorded where
  entered j member := by
    by_cases same : j = i
    · subst same
      rw [Function.update_self]
      exact entered member
    · rw [Function.update_of_ne same]
      exact inOrder.entered j member
  nodup := inOrder.nodup
  last {j c left id} calls ofId := by
    by_cases same : j = i
    · subst same
      rw [Function.update_self] at calls
      obtain ⟨_, _, called⟩ := calling c left calls
      exact inOrder.last called ofId
    · rw [Function.update_of_ne same] at calls
      exact inOrder.last calls ofId
  every j isIn := by
    rw [isRecorded_update before after] at isIn
    exact inOrder.every j isIn
  order id := by rw [isRecorded_update before after, inOrder.order]
  history id := by rw [contribution_update before after, inOrder.history]

theorem notRecorded_of_outside (outside : phase i = .ready ∨ ∃ c, phase i = .queued c) :
    isRecorded phase i = false := by
  rcases outside with ready | ⟨c, queued⟩
  · rw [isRecorded, ready]; rfl
  · rw [isRecorded, queued]; rfl

/-- A turn that has not been let in is not among those that have. -/
theorem InOrder.not_mem_acquired (inOrder : InOrder turns initial phase store acquired recorded)
    (outside : phase i = .ready ∨ ∃ c, phase i = .queued c) : i ∉ acquired := by
  intro member
  obtain ⟨notReady, notQueued⟩ := inOrder.entered i member
  rcases outside with ready | ⟨c, queued⟩
  · exact notReady ready
  · exact notQueued c queued

/-- A turn that gets the lock of its session, of which no turn waits for the vendor. -/
theorem InOrder.acquire (inOrder : InOrder turns initial phase store acquired recorded)
    (outside : phase i = .ready ∨ ∃ c, phase i = .queued c) {left : Nat}
    (alone : ∀ j c left id, phase j = .calling c left → isOf turns id j = true →
      isOf turns id i = false) :
    InOrder turns initial (Function.update phase i (.calling c left)) store (acquired ++ [i])
      recorded := by
  have new := inOrder.not_mem_acquired outside
  have before := notRecorded_of_outside outside
  refine ⟨fun j member => ?_, by simpa using List.Nodup.concat new inOrder.nodup,
    fun {j c' left' id} calls ofId => ?_, fun j isIn => ?_, fun id => ?_, fun id => ?_⟩
  · by_cases same : j = i
    · subst same
      simp [Function.update_self]
    · rw [Function.update_of_ne same]
      exact inOrder.entered j ((List.mem_append.1 member).resolve_right (by simpa using same))
  · rw [List.filter_append]
    by_cases same : j = i
    · subst same
      simp [ofId]
    · rw [Function.update_of_ne same] at calls
      rw [List.filter_singleton, alone j c' left' id calls ofId]
      simpa using inOrder.last calls ofId
  · rw [isRecorded_update before rfl] at isIn
    exact List.mem_append_left _ (inOrder.every j isIn)
  · rw [isRecorded_update before rfl, inOrder.order, List.filter_append, List.filter_append]
    have none : ([i].filter (isOf turns id)).filter (isRecorded phase) = [] := by
      simp [List.filter_filter, before]
    rw [none, List.append_nil]
  · rw [contribution_update before rfl, inOrder.history]

/-- Once the last of a list passes a test, it comes after those that pass already. -/
theorem filter_of_last {l : List Nat} {before after : Nat → Bool} (nodup : l.Nodup)
    (last : l.getLast? = some i) (fails : before i = false) (passes : after i = true)
    (others : ∀ j, j ≠ i → after j = before j) : l.filter after = l.filter before ++ [i] := by
  obtain ⟨rest, rfl⟩ := List.getLast?_eq_some_iff.1 last
  have absent : i ∉ rest := by
    intro member
    exact (List.nodup_append.1 nodup).2.2 i member i (List.mem_singleton.2 rfl) rfl
  have unchanged : rest.filter after = rest.filter before :=
    List.filter_congr fun j member => others j fun same => absent (same ▸ member)
  rw [List.filter_append, List.filter_append, unchanged]
  simp [fails, passes]

/-- A turn that is let in and ends complete is recorded. -/
theorem InOrder.complete (inOrder : InOrder turns initial phase store acquired recorded)
    (here : turns[i]? = some t) (parses : Input.parse t.request.input = .ok c.items) {left : Nat}
    (calling : phase i = .calling c left) {r : Response} (completes : p.completion? = some r) :
    InOrder turns initial (Function.update phase i p) (store.append t.session (c.items ++ r.output))
      acquired (recorded ++ [i]) := by
  have before : isRecorded phase i = false := by rw [isRecorded, calling]; rfl
  have after : isRecorded (Function.update phase i p) i = true := by
    rw [isRecorded, Function.update_self, completes, Option.isSome_some]
  have ofOwn : isOf turns t.session i = true := (isOf_here here).2 rfl
  have last := inOrder.last calling ofOwn
  have added : contribution turns (Function.update phase i p) i = c.items ++ r.output := by
    simp only [contribution, here, Function.update_self, completes, Turn.newItems, parses]
  -- the turns recorded so far add what they did
  have old (id : String) : (recorded.filter (isOf turns id)).flatMap
      (contribution turns (Function.update phase i p)) =
        (recorded.filter (isOf turns id)).flatMap (contribution turns phase) := by
    refine List.flatMap_congr fun j member => contribution_update_of_ne ?_
    rintro rfl
    rw [inOrder.order, List.mem_filter, before] at member
    exact absurd member.2 (by simp)
  refine ⟨fun j member => ?_, inOrder.nodup, fun {j c' left' id} calls ofId => ?_, fun j isIn => ?_,
    fun id => ?_, fun id => ?_⟩
  · by_cases same : j = i
    · subst same
      rw [Function.update_self]
      constructor
      · rintro rfl
        cases completes
      · rintro c rfl
        cases completes
    · rw [Function.update_of_ne same]
      exact inOrder.entered j member
  · by_cases same : j = i
    · subst same
      rw [Function.update_self] at calls
      rw [calls] at completes
      cases completes
    · rw [Function.update_of_ne same] at calls
      exact inOrder.last calls ofId
  · by_cases same : j = i
    · subst same
      exact (List.mem_filter.1 (List.mem_of_getLast? last)).1
    · rw [isRecorded_update_of_ne same] at isIn
      exact inOrder.every j isIn
  · cases ofId : isOf turns id i with
    | true =>
      rw [filter_of_last (inOrder.nodup.filter _) (inOrder.last calling ofId) before after
        fun j different => isRecorded_update_of_ne different, ← inOrder.order]
      simp [ofId]
    | false =>
      have unchanged : (acquired.filter (isOf turns id)).filter
          (isRecorded (Function.update phase i p)) =
            (acquired.filter (isOf turns id)).filter (isRecorded phase) := by
        refine List.filter_congr fun j member => isRecorded_update_of_ne ?_
        rintro rfl
        rw [List.mem_filter, ofId] at member
        exact absurd member.2 (by simp)
      rw [unchanged, ← inOrder.order]
      simp [ofId]
  · by_cases same : id = t.session
    · subst same
      rw [Store.history_append_self, inOrder.history, List.filter_append,
        List.filter_singleton, ofOwn, cond_true, List.flatMap_append, old, List.flatMap_singleton,
        added, List.append_assoc]
    · have notOf : isOf turns id i = false := isOf_other here (Ne.symm same)
      rw [Store.history_append_of_ne _ same, inOrder.history, List.filter_append,
        List.filter_singleton, notOf, cond_false, List.append_nil, old]

/-- A turn that is let in and comes to its end, whatever it is. -/
theorem InOrder.settle (inOrder : InOrder turns initial phase store acquired recorded)
    (here : turns[i]? = some t) (parses : Input.parse t.request.input = .ok c.items) {left : Nat}
    (calling : phase i = .calling c left) (finished : p.isLive = false) :
    InOrder turns initial (Function.update phase i p) (storeAfter store t c p) acquired
      (recorded ++ if p.completion?.isSome then [i] else []) := by
  unfold storeAfter
  cases completes : p.completion? with
  | some r => exact inOrder.complete here parses calling completes
  | none =>
    simp only [Option.isSome_none, Bool.false_eq_true, if_false, List.append_nil]
    refine inOrder.quiet (by rw [isRecorded, calling]; rfl) completes (fun _ => ?_) ?_
    · constructor
      · rintro rfl
        cases finished
      · rintro c rfl
        cases finished
    · rintro c left rfl
      cases finished

end Relay
end ChatRelay
