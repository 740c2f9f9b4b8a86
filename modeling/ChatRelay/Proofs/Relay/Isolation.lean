import ChatRelay.Proofs.Relay.Account
import ChatRelay.Proofs.Vendor.ReplyId

/-!
# Sessions do not interfere

Two runs of a relay, with whatever turns and in whatever order, do the same for a session if they
start from the same history of it and let the same turns of it in, in the same order and with the
same of them dropped. What the runs do for other sessions, and when, makes no difference.
-/
namespace ChatRelay

open Relay

/-- The same turn in another run: it asks for the same and is answered the same. How long its vendor
takes and which fresh id is at hand is up to the run. -/
def Turn.Twin (t t' : Turn) : Prop := ∃ freshId delay, t' = { t with freshId, delay }

/-- Turns that have both been dropped, or have both ended. -/
inductive Phase.SameFate : Phase → Phase → Prop where
  | dropped : SameFate .cancelled .cancelled
  | ended (result result' : Except RelayError Response) : SameFate (.ended result) (.ended result')

instance (p p' : Phase) : Decidable (p.SameFate p') :=
  match p, p' with
  | .cancelled, .cancelled => .isTrue .dropped
  | .ended result, .ended result' => .isTrue (.ended result result')
  | .cancelled, .ended _ => .isFalse nofun
  | .ended _, .cancelled => .isFalse nofun
  | .ready, _ => .isFalse nofun
  | .queued _, _ => .isFalse nofun
  | .calling _ _, _ => .isFalse nofun
  | _, .ready => .isFalse nofun
  | _, .queued _ => .isFalse nofun
  | _, .calling _ _ => .isFalse nofun

theorem Phase.SameFate.finished {p p' : Phase} (fate : p.SameFate p') :
    p.isLive = false ∧ p'.isLive = false := by
  cases fate <;> exact ⟨rfl, rfl⟩

/-- Results that are the same but for fresh ids. -/
inductive SameResult (freshId freshId' : String) :
    Except RelayError Response → Except RelayError Response → Prop where
  | error (e : RelayError) : SameResult freshId freshId' (.error e) (.error e)
  | named (r : Response) : SameResult freshId freshId' (.ok r) (.ok r)
  | unnamed (r : Response) :
    SameResult freshId freshId' (.ok { r with id := freshId }) (.ok { r with id := freshId' })

/-- Calls that send the same, made by turns that stand to each other in some way. -/
structure SameCall (stands : Nat → Nat → Prop) (call call' : VendorCall) : Prop where
  turn : stands call.turn call'.turn
  provider : call'.provider = call.provider
  payload : call'.payload = call.payload

section

variable {t t' : Turn} {freshId freshId' : String} {result result' : Except RelayError Response}

theorem SameResult.response (c : Converter) (freshId freshId' session : String)
    (reply : List Letter) :
    SameResult freshId freshId' (c.response freshId session reply)
      (c.response freshId' session reply) := by
  unfold Converter.response
  cases Json.ofLetters reply with
  | error fault => exact .error _
  | ok body =>
    dsimp only
    have own := c.responseOfBody_id freshId session body
    rw [c.responseOfBody_freshId freshId freshId' session body]
    generalize c.responseOfBody freshId session body = r at own
    cases named : c.vendor.replyId? body with
    | none =>
      rw [named, Option.getD_none] at own
      subst own
      exact .unnamed r
    | some name =>
      rw [named, Option.getD_some] at own
      subst own
      exact .named r

/-- Whether a response can be recorded does not depend on its id. -/
theorem SameResult.closing (same : SameResult freshId freshId' result result') (t : Turn) :
    SameResult freshId freshId' (result.bind (closing t)) (result'.bind (closing t)) := by
  cases same with
  | error e => exact .error e
  | named r =>
    simp only [Except.bind]
    cases Relay.closing t r with
    | error e => exact .error e
    | ok r => exact .named r
  | unnamed r =>
    simp only [Except.bind, Relay.closing]
    split
    · exact .error _
    · exact .unnamed r

/-- Twins come to the same end, but for fresh ids. -/
theorem Turn.Twin.verdict (twins : t.Twin t') (registry : Registry) :
    SameResult t.freshId t'.freshId (verdict registry t) (verdict registry t') := by
  obtain ⟨freshId, delay, rfl⟩ := twins
  have checked : check registry { t with freshId, delay } = check registry t := rfl
  unfold Relay.verdict
  rw [checked]
  cases check registry t with
  | error e => exact .error e
  | ok c =>
    dsimp only
    cases t.loadError with
    | some reason => exact .error _
    | none =>
      have read : SameResult t.freshId freshId (reading t c)
          (reading { t with freshId, delay } c) := by
        unfold reading
        dsimp only
        cases t.reply with
        | error reason => exact .error _
        | ok reply => exact .response c.converter t.freshId freshId t.session reply
      exact read.closing t

/-- What a complete response adds to the history does not depend on its id. -/
theorem SameResult.completion (same : SameResult freshId freshId' result result') :
    (Phase.ended result').completion?.map Response.output =
      (Phase.ended result).completion?.map Response.output := by
  cases same with
  | error e => rfl
  | named r => rfl
  | unnamed r =>
    unfold Phase.completion?
    dsimp only
    split <;> rfl

theorem Turn.Twin.callsWith {turns turns' : List Turn} {i j : Nat} (twins : t.Twin t')
    (here : turns[i]? = some t) (there : turns'[j]? = some t') (registry : Registry)
    (history : List Item) {stands : Nat → Nat → Prop} (stand : stands i j) :
    List.Forall₂ (SameCall stands) (callsWith registry turns history i)
      (callsWith registry turns' history j) := by
  obtain ⟨freshId, delay, rfl⟩ := twins
  have checked : check registry { t with freshId, delay } = check registry t := rfl
  simp only [Relay.callsWith, here, there, checked]
  cases check registry t with
  | error e => exact .nil
  | ok c =>
    cases t.loadError with
    | some reason => exact .nil
    | none => exact .cons ⟨stand, rfl, rfl⟩ .nil

end

namespace Relay

variable {s s' : Relay} {actions actions' : List Action} {id : String} {i j : Nat} {t t' : Turn}

/-- The turns of two relays that are the same. -/
def Twins (s s' : Relay) (i j : Nat) : Prop :=
  ∃ t t', s.turns[i]? = some t ∧ s'.turns[j]? = some t' ∧ t.Twin t'

/-- A turn of one run and a turn of another that are the same and come to the same fate. -/
structure Counterpart (s : Relay) (actions : List Action) (s' : Relay) (actions' : List Action)
    (i j : Nat) : Prop where
  twins : Twins s s' i j
  fate : ((s.run actions).phase i).SameFate ((s'.run actions').phase j)

/-- Turns of two runs that return the same and leave the same history of their session. -/
structure SameEffect (s : Relay) (actions : List Action) (s' : Relay) (actions' : List Action)
    (id : String) (i j : Nat) : Prop where
  result : ∀ result, (s.run actions).phase i = .ended result → ∃ t t' result',
    s.turns[i]? = some t ∧ s'.turns[j]? = some t' ∧ (s'.run actions').phase j = .ended result' ∧
      SameResult t.freshId t'.freshId result result'
  history : ∃ before a before' a', Concludes s actions i before a ∧
    Concludes s' actions' j before' a' ∧
      (s'.run (before' ++ [a'])).store.history id = (s.run (before ++ [a])).store.history id

/-- Two runs that do the same for a session. -/
structure SameSession (s : Relay) (actions : List Action) (s' : Relay) (actions' : List Action)
    (id : String) : Prop where
  /-- The same payloads are sent in the same order, each by the turns of one place. -/
  calls : List.Forall₂
    (SameCall fun i j => (i, j) ∈ (entered s actions id).zip (entered s' actions' id))
    ((s.run actions).sessionCalls id) ((s'.run actions').sessionCalls id)
  /-- Each turn returns the same and leaves the same history. -/
  effects : List.Forall₂ (SameEffect s actions s' actions' id) (entered s actions id)
    (entered s' actions' id)
  history : (s'.run actions').store.history id = (s.run actions).store.history id

/-- Turns that add the same to the history in the same order make the same calls. -/
theorem script_twins {registry : Registry} {stands : Nat → Nat → Prop}
    {added added' : Nat → List Item} {ids ids' : List Nat}
    (pairs : List.Forall₂ (fun i j => stands i j ∧ Twins s s' i j ∧ added' j = added i) ids ids')
    (history : List Item) :
    List.Forall₂ (SameCall stands) (script registry s.turns added history ids)
      (script registry s'.turns added' history ids') := by
  induction pairs generalizing history with
  | nil => exact .nil
  | cons pair _ ih =>
    obtain ⟨stand, ⟨t, t', here, there, twins⟩, same⟩ := pair
    rw [script, script, same]
    exact List.rel_append (twins.callsWith here there registry history stand) (ih _)

/-- Twins return the same, whatever else is going on in the two runs. -/
theorem sameResult_of_twin (rest : s.AtRest) (rest' : s'.AtRest)
    (registry : s'.registry = s.registry) (here : s.turns[i]? = some t)
    (there : s'.turns[j]? = some t') (twins : t.Twin t')
    {result result' : Except RelayError Response} (ended : (s.run actions).phase i = .ended result)
    (ended' : (s'.run actions').phase j = .ended result') :
    SameResult t.freshId t'.freshId result result' := by
  rw [rest.eq_verdict here ended, rest'.eq_verdict there ended', registry]
  exact twins.verdict s.registry

theorem contribution_here {turns : List Turn} (here : turns[i]? = some t) (phase : Nat → Phase) :
    contribution turns phase i =
      ((phase i).completion?.map fun r => t.newItems ++ r.output).getD [] := by
  unfold contribution
  rw [here]
  cases (phase i).completion? <;> rfl

/-- Counterparts add the same to the history. -/
theorem Counterpart.contribution_eq (counterpart : Counterpart s actions s' actions' i j)
    (rest : s.AtRest) (rest' : s'.AtRest) (registry : s'.registry = s.registry) :
    contribution s'.turns (s'.run actions').phase j =
      contribution s.turns (s.run actions).phase i := by
  obtain ⟨t, t', here, there, twins⟩ := counterpart.twins
  have fate := counterpart.fate
  rw [contribution_here here, contribution_here there]
  generalize own : (s.run actions).phase i = p at fate ⊢
  generalize other : (s'.run actions').phase j = p' at fate ⊢
  cases fate with
  | dropped => rfl
  | ended result result' =>
    have same := sameResult_of_twin rest rest' registry here there twins own other
    have items : t'.newItems = t.newItems := by
      obtain ⟨_, _, rfl⟩ := twins
      rfl
    have outputs := congrArg (·.map (t.newItems ++ ·)) same.completion
    simpa only [items, Option.map_map, Function.comp_def] using congrArg (·.getD []) outputs

theorem flatMap_counterparts {R : Nat → Nat → Prop} {added added' : Nat → List Item}
    {ids ids' : List Nat} (pairs : List.Forall₂ R ids ids')
    (same : ∀ i j, R i j → added' j = added i) : ids'.flatMap added' = ids.flatMap added := by
  induction pairs with
  | nil => rfl
  | cons pair _ ih => rw [List.flatMap_cons, List.flatMap_cons, same _ _ pair, ih]

/-- A turn that comes to an end in one run does so in the other, with the same effect. -/
theorem Counterpart.sameEffect (counterpart : Counterpart s actions s' actions' i j)
    (rest : s.AtRest) (rest' : s'.AtRest) (registry : s'.registry = s.registry)
    (initial : s'.store.history id = s.store.history id) {earlier later earlier' later' : List Nat}
    (split : entered s actions id = earlier ++ i :: later)
    (split' : entered s' actions' id = earlier' ++ j :: later')
    (pairs : List.Forall₂ (Counterpart s actions s' actions') earlier earlier') :
    SameEffect s actions s' actions' id i j where
  result result ended := by
    obtain ⟨t, t', here, there, twins⟩ := counterpart.twins
    have fate := counterpart.fate
    rw [ended] at fate
    generalize other : (s'.run actions').phase j = p' at fate
    cases fate with
    | ended _ result' =>
      exact ⟨t, t', result', here, there, rfl,
        sameResult_of_twin rest rest' registry here there twins ended other⟩
  history := by
    obtain ⟨finished, finished'⟩ := counterpart.fate.finished
    obtain ⟨before, a, concludes⟩ := rest.exists_concludes finished
    obtain ⟨before', a', concludes'⟩ := rest'.exists_concludes finished'
    refine ⟨before, a, before', a', concludes, concludes', ?_⟩
    rw [rest.history_of_concludes concludes split, rest'.history_of_concludes concludes' split',
      initial]
    have all := List.rel_append pairs (.cons counterpart .nil)
    rw [flatMap_counterparts all fun _ _ pair => pair.contribution_eq rest rest' registry]

/-- Two runs of a relay, however different, do the same for a session if they start from the same
history of it and let the same turns of it in, in the same order and to the same fates. -/
theorem sessions_isolated (rest : s.AtRest) (rest' : s'.AtRest)
    (registry : s'.registry = s.registry)
    (initial : s'.store.history id = s.store.history id)
    (pairs : List.Forall₂ (Counterpart s actions s' actions') (entered s actions id)
      (entered s' actions' id)) :
    SameSession s actions s' actions' id where
  calls := by
    rw [rest.sessionCalls_eq List.prefix_rfl, rest'.sessionCalls_eq List.prefix_rfl, initial,
      registry]
    refine script_twins (List.forall₂_iff_zip.2 ⟨pairs.length_eq, fun {i j} member => ?_⟩) _
    have counterpart := (List.forall₂_iff_zip.1 pairs).2 member
    exact ⟨member, counterpart.twins, counterpart.contribution_eq rest rest' registry⟩
  effects := by
    refine List.forall₂_iff_get.2 ⟨pairs.length_eq, fun k within within' => ?_⟩
    have counterpart := (List.forall₂_iff_get.1 pairs).2 k within within'
    have split (l : List Nat) (within : k < l.length) :
        l = l.take k ++ l.get ⟨k, within⟩ :: l.drop (k + 1) := by
      rw [List.get_eq_getElem, ← List.drop_eq_getElem_cons within, List.take_append_drop]
    exact counterpart.sameEffect rest rest' registry initial (split _ within) (split _ within')
      (List.forall₂_take k pairs)
  history := by
    rw [rest.history_eq, rest'.history_eq, initial,
      flatMap_counterparts pairs fun _ _ pair => pair.contribution_eq rest rest' registry]

/-- One turn that ends and one that is dropped while its vendor is called, once with the second one
waiting for the first, once in the company of a turn of another session. -/
theorem sessions_isolated_news :
    let turn (session freshId : String) (delay : Nat) : Turn :=
      ⟨session, "gemini", .ofInput (.str "hi"), freshId, delay, .ok (Letter.ofString "{}"), none,
        none⟩
    let s := start .standard .absent .empty [turn "chat" "a" 1, turn "chat" "b" 2]
    let s' := start .standard .absent .empty
      [turn "news" "c" 1, turn "chat" "d" 1, turn "chat" "e" 0]
    let actions : List Action := [.poll 0, .poll 1, .poll 0, .poll 1, .cancel 1]
    let actions' : List Action := [.poll 0, .poll 2, .poll 1, .cancel 0, .cancel 1]
    entered s actions "chat" = [0, 1] ∧ entered s' actions' "chat" = [2, 1] ∧
      SameSession s actions s' actions' "chat" := by
  intro turn s s' actions actions'
  have ids : entered s actions "chat" = [0, 1] := by decide +kernel
  have ids' : entered s' actions' "chat" = [2, 1] := by decide +kernel
  have first : Counterpart s actions s' actions' 0 2 :=
    ⟨⟨_, _, rfl, rfl, "e", 0, rfl⟩, by decide +kernel⟩
  have second : Counterpart s actions s' actions' 1 1 :=
    ⟨⟨_, _, rfl, rfl, "d", 1, rfl⟩, by decide +kernel⟩
  refine ⟨ids, ids', sessions_isolated rfl rfl rfl rfl ?_⟩
  rw [ids, ids']
  exact .cons first (.cons second .nil)

end Relay
end ChatRelay
