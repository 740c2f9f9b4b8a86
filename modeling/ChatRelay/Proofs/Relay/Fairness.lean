import ChatRelay.Proofs.Relay.Queue

/-!
# Turns are served in order and none is stuck

Of the turns of a session that have reached its lock and are under way, the first owns the lock or
owns it as soon as it is polled, and comes to its end by being polled alone. The others wait for it
in the order in which they have come. So from any point of a run all turns can be brought to their
ends, and the vendor is called for the turns of a session in the order in which they have come.
-/
namespace ChatRelay.Relay

variable {s s' : Relay} {i j : Nat} {t : Turn} {c : CheckedTurn} {id : String}

/-- The queue of a session holds its turns that wait for the lock or for the vendor. -/
theorem Guarded.mem_queue_iff (guarded : s.Guarded) :
    i ∈ s.locks.queue id ↔ isOf s.turns id i = true ∧
      ((∃ c, s.phase i = .queued c) ∨ ∃ c left, s.phase i = .calling c left) := by
  have table : s.locks.WellFormed := guarded.locking.table
  have held := guarded.locking.held i id
  rw [table.queue_eq, List.mem_map]
  simp only [List.mem_filter, decide_eq_true_eq]
  have holds : (∃ h, (h ∈ s.locks.handles ∧ h.session = id) ∧ h.turn = i) ↔
      tenureOf s.turns s.phase i = .holding id := by
    rw [show tenureOf s.turns s.phase i = s.locking.tenure i from rfl, held]
    constructor
    · rintro ⟨h, ⟨member, ofSession⟩, ofTurn⟩
      exact ⟨h, member, ofTurn, ofSession⟩
    · rintro ⟨h, member, ofTurn, ofSession⟩
      exact ⟨h, ⟨member, ofSession⟩, ofTurn⟩
  rw [holds]
  cases here : s.turns[i]? with
  | none => simp [tenureOf, isOf, here]
  | some t =>
    rw [tenureOf_here here, isOf_here here]
    cases s.phase i <;> simp [Phase.tenure]

/-- Whoever is first in a queue is with the vendor, or is let in when it is polled. -/
theorem Guarded.owner_cases (guarded : s.Guarded) (owns : s.locks.isOwner j id = true) :
    j ∈ s.locks.queue id ∧
      ((∃ c left, s.phase j = .calling c left) ∨ s.acquires j = true) := by
  have member : j ∈ s.locks.queue id :=
    List.mem_of_head? (LockTable.isOwner_iff.1 owns)
  obtain ⟨ofId, queued | calling⟩ := guarded.mem_queue_iff.1 member
  · refine ⟨member, .inr ?_⟩
    obtain ⟨c, queued⟩ := queued
    obtain ⟨t, here, rfl⟩ := exists_of_isOf ofId
    simpa only [acquires, here, queued] using owns
  · exact ⟨member, .inl calling⟩

/-- Whoever is in a queue and not first waits for the lock. -/
theorem Guarded.queued_of_behind (guarded : s.Guarded) (member : i ∈ s.locks.queue id)
    (behind : s.locks.isOwner i id = false) :
    (∃ c, s.phase i = .queued c) ∧ s.acquires i = false := by
  obtain ⟨ofId, phase⟩ := guarded.mem_queue_iff.1 member
  obtain ⟨t, here, rfl⟩ := exists_of_isOf ofId
  rcases phase with ⟨c, queued⟩ | ⟨c, left, calling⟩
  · exact ⟨⟨c, queued⟩, by simpa only [acquires, here, queued] using behind⟩
  · have owns := guarded.owner here calling
    rw [behind] at owns
    cases owns

theorem poll_of_calling (here : s.turns[i]? = some t) {left : Nat}
    (calling : s.phase i = .calling c left) :
    (s.step (.poll i)).phase i =
      if left ≤ 1 then .ended (outcome t c) else .calling c (left - 1) := by
  have polled : s.step (.poll i) = s.pollPhase i t (.calling c left) := by
    simp only [step, poll, here, calling]
  obtain ⟨events, received⟩ := receive_eq s i t c
  rw [polled]
  by_cases due : left ≤ 1
  · have taken : s.pollPhase i t (.calling c left) = s.receive i t c := by
      cases left with
      | zero => rfl
      | succ left =>
        obtain rfl : left = 0 := by omega
        rfl
    rw [if_pos due, taken, received]
    exact Function.update_self _ _ _
  · obtain ⟨more, rfl⟩ : ∃ more, left = more + 2 := ⟨left - 2, by omega⟩
    rw [if_neg due, pollPhase, setPhase_eq]
    exact Function.update_self _ _ _

/-- A turn that is let in is then with the vendor or over. -/
theorem poll_of_acquires (acquires : s.acquires i = true) :
    ((s.step (.poll i)).phase i).isLive = false ∨
      ∃ c left, (s.step (.poll i)).phase i = .calling c left := by
  obtain ⟨t, c, locks, here, arrives, _⟩ := exists_arrives acquires
  rcases poll_cases s i here with ⟨finished, _⟩ | moves
  · rw [arrives.live] at finished
    cases finished
  change Transition s i t (.poll i) (s.step (.poll i)) at moves
  generalize s.step (.poll i) = s' at moves
  cases moves with
  | refused ready fails =>
    simp only [Relay.acquires, here, ready, fails, Bool.false_eq_true] at acquires
  | waits arrives' behind =>
    rw [arrives'.acquires_eq here, behind] at acquires
    cases acquires
  | unloaded arrives' owns fails => exact .inl (by simp [Phase.isLive])
  | calls arrives' owns loads delays => exact .inr ⟨_, _, Function.update_self _ _ _⟩
  | callsAndEnds arrives' owns loads prompt => exact .inl (by simp [Phase.isLive])
  | stays calling => simp only [Relay.acquires, here, calling, Bool.false_eq_true] at acquires
  | ends calling due => simp only [Relay.acquires, here, calling, Bool.false_eq_true] at acquires

/-- The turn waits for no other one. -/
inductive Unblocked (s : Relay) (i : Nat) : Prop where
  | calling {t : Turn} {c : CheckedTurn} {left : Nat} (here : s.turns[i]? = some t)
      (calling : s.phase i = .calling c left)
  | entering (acquires : s.acquires i = true)
  | failing {t : Turn} {e : RelayError} (here : s.turns[i]? = some t) (ready : s.phase i = .ready)
      (fails : check s.registry t = .error e)

theorem run_cons (s : Relay) (a : Action) (actions : List Action) :
    s.run (a :: actions) = (s.step a).run actions := rfl

theorem run_replicate_one (s : Relay) (a : Action) : s.run (List.replicate 1 a) = s.step a := rfl

/-- A turn that is with the vendor ends after so many polls. -/
theorem exists_ends_of_calling (here : s.turns[i]? = some t) {left : Nat}
    (calling : s.phase i = .calling c left) :
    ∃ n, ((s.run (List.replicate n (.poll i))).phase i).isLive = false := by
  induction left generalizing s with
  | zero =>
    refine ⟨1, ?_⟩
    rw [run_replicate_one, poll_of_calling here calling]
    rfl
  | succ left ih =>
    have polled := poll_of_calling here calling
    by_cases due : left + 1 ≤ 1
    · rw [if_pos due] at polled
      refine ⟨1, ?_⟩
      rw [run_replicate_one, polled]
      rfl
    · rw [if_neg due] at polled
      obtain ⟨n, ended⟩ := ih (s := s.step (.poll i)) (by rwa [step_turns]) polled
      exact ⟨n + 1, by rwa [List.replicate_succ, run_cons]⟩

/-- A turn that waits for no other one ends when it alone is polled. -/
theorem Unblocked.exists_ends (unblocked : s.Unblocked i) :
    ∃ n, ((s.run (List.replicate n (.poll i))).phase i).isLive = false := by
  cases unblocked with
  | calling here calling => exact exists_ends_of_calling here calling
  | entering acquires =>
    obtain ⟨t, _, _, here, _, _⟩ := exists_arrives acquires
    rcases poll_of_acquires acquires with ended | ⟨c, left, calling⟩
    · exact ⟨1, ended⟩
    · have here' : (s.step (.poll i)).turns[i]? = some t := by rwa [step_turns]
      obtain ⟨n, ended⟩ := exists_ends_of_calling here' calling
      exact ⟨n + 1, by rwa [List.replicate_succ, run_cons]⟩
  | @failing t e here ready fails =>
    have polled : s.step (.poll i) = s.setPhase i (.ended (.error e)) := by
      simp only [step, poll, here, ready, pollPhase, fails]
    refine ⟨1, ?_⟩
    rw [run_replicate_one, polled, setPhase_eq]
    simp [Phase.isLive]

theorem Unblocked.exists_turn (unblocked : s.Unblocked i) : ∃ t, s.turns[i]? = some t := by
  cases unblocked with
  | calling here calling => exact ⟨_, here⟩
  | entering acquires =>
    obtain ⟨t, _, _, here, _, _⟩ := exists_arrives acquires
    exact ⟨t, here⟩
  | failing here ready fails => exact ⟨_, here⟩

/-- Whoever owns a lock waits for no other turn. -/
theorem Guarded.unblocked_of_owner (guarded : s.Guarded) (owns : s.locks.isOwner j id = true) :
    s.Unblocked j := by
  obtain ⟨member, ⟨c, left, calling⟩ | acquires⟩ := guarded.owner_cases owns
  · obtain ⟨t, here, _⟩ := exists_of_isOf (guarded.mem_queue_iff.1 member).1
    exact .calling here calling
  · exact .entering acquires

/-- Whoever stands in a queue is live. -/
theorem Guarded.live_of_mem_queue (guarded : s.Guarded) (member : i ∈ s.locks.queue id) :
    (s.phase i).isLive = true := by
  obtain ⟨-, ⟨c, queued⟩ | ⟨c, left, calling⟩⟩ := guarded.mem_queue_iff.1 member
  · rw [queued]; rfl
  · rw [calling]; rfl

/-- A queue that is not empty has a first turn. -/
theorem exists_owner {locks : LockTable} (member : i ∈ locks.queue id) :
    ∃ j, locks.isOwner j id = true := by
  cases queue : locks.queue id with
  | nil =>
    rw [queue] at member
    cases member
  | cons j rest => exact ⟨j, LockTable.isOwner_iff.2 (by rw [queue, List.head?_cons])⟩

/-- If any turn is under way, so is one that waits for no other. -/
theorem Guarded.exists_unblocked (guarded : s.Guarded) (here : s.turns[i]? = some t)
    (live : (s.phase i).isLive = true) : ∃ j, (s.phase j).isLive = true ∧ s.Unblocked j := by
  have ofQueue {id : String} {k : Nat} (member : k ∈ s.locks.queue id) :
      ∃ j, (s.phase j).isLive = true ∧ s.Unblocked j := by
    obtain ⟨j, owns⟩ := exists_owner member
    exact ⟨j, guarded.live_of_mem_queue (guarded.owner_cases owns).1,
      guarded.unblocked_of_owner owns⟩
  cases phase : s.phase i with
  | ready =>
    cases passes : check s.registry t with
    | error e => exact ⟨i, live, .failing here phase passes⟩
    | ok c =>
      cases acquires : s.acquires i with
      | true => exact ⟨i, live, .entering acquires⟩
      | false =>
        -- the turn would come behind another one, which stands in the queue already
        have table : s.locks.WellFormed := guarded.locking.table
        have behind : (s.locks.take i t.session).isOwner i t.session = false := by
          simpa only [Relay.acquires, here, phase, passes] using acquires
        cases queue : s.locks.queue t.session with
        | nil =>
          rw [LockTable.isOwner, table.queue_take (guarded.absent here phase), queue] at behind
          simp at behind
        | cons k rest => exact ofQueue (queue ▸ List.mem_cons_self)
  | queued c => exact ofQueue (guarded.mem_queue_iff.2 ⟨(isOf_here here).2 rfl, .inl ⟨c, phase⟩⟩)
  | calling c left => exact ⟨i, live, .calling here phase⟩
  | ended result =>
    rw [phase] at live
    cases live
  | cancelled =>
    rw [phase] at live
    cases live

theorem run_replicate_phase_of_ne (s : Relay) (n : Nat) (different : i ≠ j) :
    (s.run (List.replicate n (.poll j))).phase i = s.phase i := by
  induction n generalizing s with
  | zero => rfl
  | succ n ih =>
    rw [List.replicate_succ, run_cons, ih, step_phase_of_ne different]

def liveTurns (s : Relay) : List Nat :=
  (List.range s.turns.length).filter fun i => (s.phase i).isLive

theorem mem_liveTurns :
    i ∈ s.liveTurns ↔ (∃ t, s.turns[i]? = some t) ∧ (s.phase i).isLive = true := by
  simp [liveTurns, List.getElem?_eq_some_iff]

/-- Once a turn has been polled to its end there is one turn less. -/
theorem liveTurns_lt {n : Nat} (member : j ∈ s.liveTurns)
    (ended : ((s.run (List.replicate n (.poll j))).phase j).isLive = false) :
    (s.run (List.replicate n (.poll j))).liveTurns.length < s.liveTurns.length := by
  have fewer : (s.run (List.replicate n (.poll j))).liveTurns =
      s.liveTurns.filter fun i => i ≠ j := by
    rw [liveTurns, run_turns, liveTurns, List.filter_filter]
    refine List.filter_congr fun i _ => ?_
    by_cases same : i = j
    · simp [same, ended]
    · simp [same, run_replicate_phase_of_ne s n same]
  rw [fewer]
  exact List.length_filter_lt_length_iff_exists.2 ⟨j, member, by simp⟩

/-- From any point of a run all turns can be brought to their ends by polling them. -/
theorem Guarded.exists_finish (guarded : s.Guarded) :
    ∃ polls : List Nat, (s.run (polls.map .poll)).liveTurns = [] := by
  have finish : ∀ (n : Nat) (s : Relay), s.Guarded → s.liveTurns.length ≤ n →
      ∃ polls : List Nat, (s.run (polls.map .poll)).liveTurns = [] := by
    intro n
    induction n with
    | zero =>
      intro s _ none
      exact ⟨[], List.eq_nil_of_length_eq_zero (Nat.le_zero.1 none)⟩
    | succ n ih =>
      intro s guarded bound
      cases live : s.liveTurns with
      | nil => exact ⟨[], live⟩
      | cons i rest =>
        have member : i ∈ s.liveTurns := live ▸ List.mem_cons_self
        obtain ⟨⟨t, here⟩, isLive⟩ := mem_liveTurns.1 member
        obtain ⟨j, live', unblocked⟩ := guarded.exists_unblocked here isLive
        obtain ⟨k, ended⟩ := unblocked.exists_ends
        have fewer := liveTurns_lt (mem_liveTurns.2 ⟨unblocked.exists_turn, live'⟩) ended
        obtain ⟨polls, done⟩ := ih (s.run (List.replicate k (.poll j))) (guarded.run _) (by omega)
        refine ⟨List.replicate k j ++ polls, ?_⟩
        rw [List.map_append, run_run, List.map_replicate]
        exact done
  exact finish _ s guarded (Nat.le_refl _)

/-- The turns of a session are let in in the order in which they have come. -/
theorem AtRest.entered_sublist (rest : s.AtRest) (actions : List Action) (id : String) :
    (entered s actions id).Sublist ((reached s actions).filter (isOf s.turns id)) :=
  (List.sublist_append_left _ _).trans ((rest.lined actions).order id)

/-- The turns in the queue of a session stand in the order in which they have come. -/
theorem AtRest.queue_sublist (rest : s.AtRest) (actions : List Action) (id : String) :
    ((s.run actions).locks.queue id).Sublist ((reached s actions).filter (isOf s.turns id)) := by
  have guarded := rest.guarded actions
  have table : (s.run actions).locks.WellFormed := guarded.locking.table
  have order := (rest.lined actions).order id
  cases queue : (s.run actions).locks.queue id with
  | nil => exact List.nil_sublist _
  | cons j behind =>
    have nodup := table.nodup_queue id
    rw [queue] at nodup
    have owns : (s.run actions).locks.isOwner j id = true :=
      LockTable.isOwner_iff.2 (by rw [queue, List.head?_cons])
    have others : behind.filter (fun k => ((s.run actions).phase k).isQueued) = behind := by
      refine List.filter_eq_self.2 fun k member => ?_
      have second : (s.run actions).locks.isOwner k id = false := by
        rw [LockTable.isOwner, queue, List.head?_cons, decide_eq_false_iff_not, Option.some.injEq]
        exact fun same => (List.nodup_cons.1 nodup).1 (same ▸ member)
      obtain ⟨⟨c, queued⟩, -⟩ :=
        guarded.queued_of_behind (queue ▸ List.mem_cons_of_mem j member) second
      rw [queued]
      rfl
    rw [waiting, queue] at order
    obtain ⟨ofId, ⟨c, queued⟩ | ⟨c, left, calling⟩⟩ :=
      guarded.mem_queue_iff.1 (guarded.owner_cases owns).1
    · rw [List.filter_cons_of_pos (by rw [queued]; rfl), others] at order
      exact (List.sublist_append_right _ _).trans order
    · rw [List.filter_cons_of_neg (by rw [calling]; exact Bool.false_ne_true), others] at order
      -- the turn with the vendor has been let in last
      rw [run_turns] at ofId
      obtain ⟨before, last⟩ :=
        List.getLast?_eq_some_iff.1 ((rest.inOrder actions).last calling ofId)
      rw [last, List.append_assoc] at order
      exact (List.sublist_append_right _ _).trans order

/-- The calls for a session are made in the order in which its turns have come. -/
theorem AtRest.sessionCalls_sublist (rest : s.AtRest) (actions : List Action) (id : String) :
    (((s.run actions).sessionCalls id).map VendorCall.turn).Sublist
      ((reached s actions).filter (isOf s.turns id)) := by
  have sent := (rest.faithful actions).sent
  rw [Chronicle.relay_run] at sent
  refine List.Sublist.trans ?_ (rest.entered_sublist actions id)
  have ofSession : ((s.run actions).sessionCalls id).map VendorCall.turn =
      ((s.run actions).calls.map VendorCall.turn).filter (isOf s.turns id) := by
    rw [sessionCalls, run_turns, List.filter_map]
    rfl
  rw [ofSession]
  exact sent.filter _

/-- How the turns of a session that have reached its lock and are under way stand to each other. -/
structure Served (s : Relay) (actions : List Action) (id : String) : Prop where
  /-- They make up the queue of the session, in the order in which they have come. -/
  queue : (∀ i, i ∈ (s.run actions).locks.queue id ↔
      i ∈ reached s actions ∧ isOf s.turns id i = true ∧
        ((s.run actions).phase i).isLive = true) ∧
    ((s.run actions).locks.queue id).Sublist ((reached s actions).filter (isOf s.turns id))
  /-- If there are any, exactly one of them owns the lock or is the next to own it. -/
  owner : ∀ i ∈ (s.run actions).locks.queue id,
    ∃! j, j ∈ (s.run actions).locks.queue id ∧ (s.run actions).locks.isOwner j id = true
  /-- This one is with its vendor or let in when it is polled, and polled alone it ends. -/
  proceeds : ∀ j, (s.run actions).locks.isOwner j id = true →
    ((∃ c left, (s.run actions).phase j = .calling c left) ∨ (s.run actions).acquires j = true) ∧
      ∃ n, ((s.run (actions ++ List.replicate n (.poll j))).phase j).isLive = false
  /-- The others wait. -/
  waits : ∀ i ∈ (s.run actions).locks.queue id, (s.run actions).locks.isOwner i id = false →
    (∃ c, (s.run actions).phase i = .queued c) ∧ (s.run actions).acquires i = false
  /-- Turns of the session are let in, and call their vendors, in the order in which they have
  come. -/
  letIn : (entered s actions id).Sublist ((reached s actions).filter (isOf s.turns id))
  calls : (((s.run actions).sessionCalls id).map VendorCall.turn).Sublist
    ((reached s actions).filter (isOf s.turns id))

theorem AtRest.served (rest : s.AtRest) (actions : List Action) (id : String) :
    Served s actions id := by
  have guarded := rest.guarded actions
  have lined := rest.lined actions
  refine ⟨⟨fun i => ⟨fun member => ?_, ?_⟩, rest.queue_sublist actions id⟩, fun i member => ?_,
    fun j owns => ?_, fun i member behind => guarded.queued_of_behind member behind,
    rest.entered_sublist actions id, rest.sessionCalls_sublist actions id⟩
  · exact ⟨lined.every member, lined.own member, guarded.live_of_mem_queue member⟩
  · rintro ⟨came, ofId, live⟩
    refine guarded.mem_queue_iff.2 ⟨by rwa [run_turns], ?_⟩
    have started := lined.started i came
    cases phase : (s.run actions).phase i with
    | ready => exact absurd phase started
    | queued c => exact .inl ⟨c, rfl⟩
    | calling c left => exact .inr ⟨c, left, rfl⟩
    | ended result =>
      rw [phase] at live
      cases live
    | cancelled =>
      rw [phase] at live
      cases live
  · obtain ⟨j, owns⟩ := exists_owner member
    refine ⟨j, ⟨(guarded.owner_cases owns).1, owns⟩, ?_⟩
    rintro k ⟨-, owns'⟩
    have first := LockTable.isOwner_iff.1 owns
    rw [LockTable.isOwner_iff.1 owns'] at first
    exact Option.some.inj first
  · obtain ⟨n, ended⟩ := (guarded.unblocked_of_owner owns).exists_ends
    exact ⟨(guarded.owner_cases owns).2, n, by rwa [run_run]⟩

/-- No handle of a lock is held by a turn that has ended or been dropped. -/
theorem Guarded.live_of_handle (guarded : s.Guarded) {h : LockHandle} (held : h ∈ s.locks.handles) :
    (s.phase h.turn).isLive = true := by
  have table : s.locks.WellFormed := guarded.locking.table
  have member : h.turn ∈ s.locks.queue h.session := by
    rw [table.queue_eq]
    exact List.mem_map.2 ⟨h, List.mem_filter.2 ⟨held, by simp⟩, rfl⟩
  exact guarded.live_of_mem_queue member

/-- Turns queue fairly and are never stuck, whatever is polled and dropped in whatever order: at any
point of a run the turns of each session are served in the order in which they have come, no turn
comes twice, no turn that is over holds a lock, and all turns can be brought to their ends. -/
theorem turns_served_in_order (registry : Registry) (sink : UsageSink) (store : Store)
    (turns : List Turn) (actions : List Action) :
    let s := start registry sink store turns
    (∀ id, Served s actions id) ∧ (reached s actions).Nodup ∧
      (∀ h ∈ (s.run actions).locks.handles, ((s.run actions).phase h.turn).isLive = true) ∧
      ∃ polls : List Nat, ∀ i < turns.length,
        ((s.run (actions ++ polls.map .poll)).phase i).isLive = false := by
  intro s
  have rest : s.AtRest := rfl
  have guarded := rest.guarded actions
  obtain ⟨polls, done⟩ := guarded.exists_finish
  refine ⟨rest.served actions, (rest.lined actions).nodup,
    fun h held => guarded.live_of_handle held, polls, fun i within => ?_⟩
  rw [run_run, ← Bool.not_eq_true]
  intro live
  have here : ((s.run actions).run (polls.map .poll)).turns[i]? = some turns[i] := by
    rw [run_turns, run_turns]
    exact List.getElem?_eq_getElem within
  have member : i ∈ ((s.run actions).run (polls.map .poll)).liveTurns :=
    mem_liveTurns.2 ⟨⟨_, here⟩, live⟩
  rw [done] at member
  cases member

/-- The lock passes over a turn that is dropped after it has been granted the lock. -/
example :
    let turn : Turn := ⟨"chat", "gemini", .ofInput (.str "hi"), "a", 1,
      .ok (Letter.ofString "\x7b\x7d"), none, none⟩
    let s := start .standard .absent .empty [turn, turn, turn]
    let granted := s.run [.poll 0, .poll 1, .poll 2, .poll 0]
    granted.locks.queue "chat" = [1, 2] ∧ granted.acquires 1 = true ∧
      (granted.step (.cancel 1)).locks.queue "chat" = [2] ∧
      (granted.step (.cancel 1)).acquires 2 = true := by
  decide +kernel

end ChatRelay.Relay
