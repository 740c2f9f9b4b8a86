import Mathlib.Data.List.Chain

/-!
# Runs of one role

Vendors take messages of one role each. What is sent under roles is therefore cut into runs, which
are as long as they can be: no two runs that follow each other have the same role. The converters
build them from the left, adding to the last run or beginning a new one; `cut` says from the right
what they build.
-/
namespace ChatRelay.Runs

variable {ρ β : Type} [DecidableEq ρ]

/-- Puts one thing before the runs, into the first one if that has its role. -/
def cons (x : ρ × β) : List (ρ × List β) → List (ρ × List β)
  | [] => [(x.1, [x.2])]
  | (role, bs) :: rest =>
    if x.1 = role then (role, x.2 :: bs) :: rest else (x.1, [x.2]) :: (role, bs) :: rest

/-- The maximal runs of one role. -/
def cut (l : List (ρ × β)) : List (ρ × List β) := l.foldr cons []

/-- Puts one thing after the runs, into the last one if that has its role. -/
def snoc : List (ρ × List β) → ρ × β → List (ρ × List β)
  | [], x => [(x.1, [x.2])]
  | [(role, bs)], x => if role = x.1 then [(role, bs ++ [x.2])] else [(role, bs), (x.1, [x.2])]
  | run :: run' :: rest, x => run :: snoc (run' :: rest) x

/-- What the runs hold, each thing under its role. -/
def flat (runs : List (ρ × List β)) : List (ρ × β) :=
  runs.flatMap fun run => run.2.map (Prod.mk run.1)

/-- It does not matter which end is put on first. -/
theorem cons_snoc (x y : ρ × β) (runs : List (ρ × List β)) :
    cons y (snoc runs x) = snoc (cons y runs) x := by
  match runs with
  | [] =>
    by_cases same : y.1 = x.1
    · simp [cons, snoc, same]
    · simp [cons, snoc, same]
  | [(role, bs)] =>
    by_cases first : y.1 = role
    · by_cases last : role = x.1
      · simp [cons, snoc, first, last]
      · simp [cons, snoc, first, last]
    · by_cases last : role = x.1
      · subst last
        simp [cons, snoc, first]
      · simp [cons, snoc, first, last]
  | (role, bs) :: run :: rest =>
    by_cases first : y.1 = role
    · simp [cons, snoc, first]
    · simp [cons, snoc, first]

/-- Runs built from the left are those cut from the right. -/
theorem foldl_snoc (l : List (ρ × β)) : l.foldl snoc [] = cut l := by
  have build (runs : List (ρ × List β)) (x : ρ × β) :
      ∀ l : List (ρ × β), snoc (l.foldr cons runs) x = l.foldr cons (snoc runs x) := by
    intro l
    induction l with
    | nil => rfl
    | cons y rest ih => rw [List.foldr_cons, ← cons_snoc, ih, List.foldr_cons]
  induction l using List.reverseRecOn with
  | nil => rfl
  | append_singleton rest x ih =>
    rw [List.foldl_append, ih, List.foldl_cons, List.foldl_nil, cut, build, cut, List.foldr_append]
    rfl

/-- A way of adding that puts one thing after the runs builds the runs, whatever is made of them. -/
theorem foldl_eq_map_cut {μ : Type} {push : List μ → ρ × β → List μ} {ofRun : ρ × List β → μ}
    (agrees : ∀ runs x, push (runs.map ofRun) x = (snoc runs x).map ofRun) (l : List (ρ × β)) :
    l.foldl push [] = (cut l).map ofRun := by
  rw [← foldl_snoc]
  induction l using List.reverseRecOn with
  | nil => rfl
  | append_singleton rest x ih =>
    rw [List.foldl_append, ih, List.foldl_append]
    exact agrees _ x

/-- The runs hold the list. -/
theorem flat_cut (l : List (ρ × β)) : flat (cut l) = l := by
  have grow (x : ρ × β) (runs : List (ρ × List β)) : flat (cons x runs) = x :: flat runs := by
    match runs with
    | [] => rfl
    | (role, bs) :: rest =>
      by_cases same : x.1 = role
      · subst same
        simp [cons, flat]
      · simp [cons, flat, same]
  induction l with
  | nil => rfl
  | cons x rest ih =>
    rw [cut, List.foldr_cons, grow]
    exact congrArg (x :: ·) ih

/-- No run is empty. -/
theorem ne_nil_of_mem_cut {l : List (ρ × β)} {run : ρ × List β} (member : run ∈ cut l) :
    run.2 ≠ [] := by
  induction l generalizing run with
  | nil => cases member
  | cons x rest ih =>
    rw [cut, List.foldr_cons] at member
    change run ∈ cons x (cut rest) at member
    unfold cons at member
    split at member
    · rw [List.mem_singleton.1 member]
      exact List.cons_ne_nil _ _
    · rename_i role bs others cuts
      rw [cuts] at ih
      split at member
      · rcases List.mem_cons.1 member with rfl | there
        · exact List.cons_ne_nil _ _
        · exact ih (List.mem_cons_of_mem _ there)
      · rcases List.mem_cons.1 member with rfl | there
        · exact List.cons_ne_nil _ _
        · exact ih there

/-- Runs that follow each other have different roles. -/
theorem isChain_cut (l : List (ρ × β)) : (cut l).IsChain fun run run' => run.1 ≠ run'.1 := by
  induction l with
  | nil => exact .nil
  | cons x rest ih =>
    rw [cut, List.foldr_cons]
    change (cons x (cut rest)).IsChain _
    unfold cons
    split
    · exact .singleton _
    · rename_i role bs others cuts
      rw [cuts] at ih
      split
      · cases others with
        | nil => exact .singleton _
        | cons run others =>
          rw [List.isChain_cons_cons] at ih ⊢
          exact ih
      · rename_i different
        exact List.isChain_cons_cons.2 ⟨different, ih⟩

/-- It does not matter what stands for the roles and the things, as long as roles stay apart. -/
theorem cut_map {ρ' β' : Type} [DecidableEq ρ'] {f : ρ → ρ'} (apart : Function.Injective f)
    (g : β → β') (l : List (ρ × β)) :
    cut (l.map (Prod.map f g)) = (cut l).map (Prod.map f (List.map g)) := by
  have put (x : ρ × β) (runs : List (ρ × List β)) :
      cons (Prod.map f g x) (runs.map (Prod.map f (List.map g))) =
        (cons x runs).map (Prod.map f (List.map g)) := by
    match runs with
    | [] => rfl
    | (role, bs) :: rest =>
      by_cases same : x.1 = role
      · simp [cons, same]
      · simp [cons, same, apart.eq_iff]
  induction l with
  | nil => rfl
  | cons x rest ih =>
    rw [List.map_cons, cut, List.foldr_cons]
    exact (congrArg (cons (Prod.map f g x)) ih).trans (put x (cut rest))

/-- Things of one role are one run, if there are any. -/
theorem cut_map_mk (role : ρ) (bs : List β) :
    cut (bs.map (Prod.mk role)) = if bs.isEmpty then [] else [(role, bs)] := by
  induction bs with
  | nil => rfl
  | cons b rest ih =>
    rw [List.map_cons, cut, List.foldr_cons]
    change cons (role, b) (cut (rest.map (Prod.mk role))) = _
    rw [ih]
    cases rest with
    | nil => rfl
    | cons b' rest => simp [cons]

/-- A thing is put before the runs by putting it before the first one. -/
theorem cons_cons (x : ρ × β) (run : ρ × List β) (runs : List (ρ × List β)) :
    cons x (run :: runs) = cons x [run] ++ runs := by
  by_cases same : x.1 = run.1
  · simp [cons, same]
  · simp [cons, same]

/-- Things of one role at the front begin the first run, whatever they are. -/
theorem cut_map_append (role : ρ) (after : List (ρ × β)) :
    ∃ last others, ∀ bs ≠ [],
      cut (bs.map (Prod.mk role) ++ after) = (role, bs ++ last) :: others := by
  obtain ⟨last, others, one⟩ : ∃ last others, ∀ b : β,
      cons (role, b) (cut after) = (role, b :: last) :: others := by
    rcases cut after with _ | ⟨⟨role', bs⟩, rest⟩
    · exact ⟨[], [], fun _ => rfl⟩
    · by_cases same : role = role'
      · exact ⟨bs, rest, fun _ => by rw [cons, if_pos same, same]⟩
      · exact ⟨[], (role', bs) :: rest, fun _ => by rw [cons, if_neg same]⟩
  refine ⟨last, others, fun bs nonempty => ?_⟩
  induction bs with
  | nil => exact absurd rfl nonempty
  | cons b rest ih =>
    cases rest with
    | nil => exact one b
    | cons b' rest =>
      have joins : cons (role, b) ((role, b' :: rest ++ last) :: others) =
          (role, b :: b' :: rest ++ last) :: others := if_pos rfl
      exact (congrArg (cons (role, b)) (ih (List.cons_ne_nil b' rest))).trans joins

/-- Things of one role that follow each other are part of one run, whatever they are: what surrounds
them is the same for all. -/
theorem cut_block (before : List (ρ × β)) (role : ρ) (after : List (ρ × β)) :
    ∃ runs first last others, ∀ bs ≠ [],
      cut (before ++ bs.map (Prod.mk role) ++ after) =
        runs ++ (role, first ++ bs ++ last) :: others := by
  induction before with
  | nil =>
    obtain ⟨last, others, begun⟩ := cut_map_append role after
    exact ⟨[], [], last, others, begun⟩
  | cons x rest ih =>
    obtain ⟨runs, first, last, others, ih⟩ := ih
    have grown : ∀ bs ≠ [], cut (x :: rest ++ bs.map (Prod.mk role) ++ after) =
        cons x (runs ++ (role, first ++ bs ++ last) :: others) :=
      fun bs nonempty => congrArg (cons x) (ih bs nonempty)
    cases runs with
    | cons run runs =>
      refine ⟨cons x [run] ++ runs, first, last, others, fun bs nonempty => ?_⟩
      rw [grown bs nonempty, List.cons_append, cons_cons, ← List.append_assoc]
    | nil =>
      -- the run of the block is the first one, which the thing joins if it has its role
      by_cases same : x.1 = role
      · exact ⟨[], x.2 :: first, last, others, fun bs nonempty =>
          (grown bs nonempty).trans (if_pos same)⟩
      · exact ⟨[(x.1, [x.2])], first, last, others, fun bs nonempty =>
          (grown bs nonempty).trans (if_neg same)⟩

end ChatRelay.Runs
