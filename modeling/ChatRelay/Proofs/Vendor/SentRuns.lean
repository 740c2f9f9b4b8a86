import ChatRelay.Proofs.Json.Lookup
import ChatRelay.Proofs.Transcript.Rendering
import ChatRelay.Proofs.Vendor.Reading
import ChatRelay.Proofs.Vendor.Runs
import Mathlib.Data.List.Forall2

/-!
# Runs of entries as they are sent

Where a vendor takes messages of one role, a run of entries is sent as a message that names the role
and lists something for each entry. What is listed for an entry, and under which key, is up to the
vendor; that roles alternate, that no message is empty and that nothing is lost follow for all.
-/
namespace List

variable {α β : Type} {R : α → β → Prop}

/-- Whatever stands on the right of a pointwise relation stands across from something. -/
theorem Forall₂.exists_of_mem {l : List α} {l' : List β} (related : Forall₂ R l l') {b : β}
    (member : b ∈ l') : ∃ a ∈ l, R a b := by
  induction related with
  | nil => cases member
  | @cons a b' l l' here _ ih =>
    rcases mem_cons.1 member with rfl | there
    · exact ⟨a, mem_cons_self, here⟩
    · obtain ⟨a', among, holds⟩ := ih there
      exact ⟨a', mem_cons_of_mem a among, holds⟩

/-- A pointwise relation to two parts relates each to a part. -/
theorem Forall₂.exists_append {first second : List α} {l' : List β}
    (related : Forall₂ R (first ++ second) l') :
    ∃ first' second', l' = first' ++ second' ∧ Forall₂ R first first' ∧
      Forall₂ R second second' := by
  induction first generalizing l' with
  | nil => exact ⟨[], l', rfl, .nil, related⟩
  | cons a rest ih =>
    obtain ⟨b, others, here, later, rfl⟩ := forall₂_cons_left_iff.1 related
    obtain ⟨first', second', rfl, one, two⟩ := ih later
    exact ⟨b :: first', second', rfl, .cons here one, two⟩

end List

namespace ChatRelay

variable {key : String} {Sent : Entry → Json → Prop}

/-- A message for a run of entries: it names their role, and lists under a key what is sent for
them. -/
def SentRun (key : String) (Sent : Entry → Json → Prop) (run : String × List Entry) (m : Json) :
    Prop :=
  ∃ elems, m.Holds [("role", .str run.1), (key, .arr elems)] ∧ List.Forall₂ Sent run.2 elems

/-- What messages list under a key, each with what its message has for a role. -/
def listedUnder (key : String) (messages : List Json) : List (Option Json × Json) :=
  messages.flatMap fun m => (m.elementsAt key).map (Prod.mk (m.get? "role"))

/-- Roles apart, what messages list is the elements under the key, one message after another. -/
theorem map_snd_listedUnder (key : String) (messages : List Json) :
    (listedUnder key messages).map Prod.snd = messages.flatMap (·.elementsAt key) := by
  rw [listedUnder, List.map_flatMap]
  apply List.flatMap_congr
  intro m _
  rw [List.map_map]
  exact List.map_id _

/-- Something is sent under the role of its entry. -/
def SentUnder (Sent : Entry → Json → Prop) (x : String × Entry) (y : Option Json × Json) : Prop :=
  y.1 = some (.str x.1) ∧ Sent x.2 y.2

/-- The entries that are sent under a role, each with its role. -/
def placed {ρ : Type} (role? : Entry → Option ρ) (entries : List Entry) : List (ρ × Entry) :=
  entries.filterMap fun e => (role? e).map fun role => (role, e)

theorem role?_of_mem_placed {ρ : Type} {role? : Entry → Option ρ} {entries : List Entry}
    {x : ρ × Entry} (member : x ∈ placed role? entries) : role? x.2 = some x.1 := by
  obtain ⟨e, _, made⟩ := List.mem_filterMap.1 member
  obtain ⟨role, named, rfl⟩ := Option.map_eq_some_iff.1 made
  exact named

theorem placed_eq_map {ρ : Type} {role? : Entry → Option ρ} {role : ρ} {entries : List Entry}
    (each : ∀ e ∈ entries, role? e = some role) :
    placed role? entries = entries.map (Prod.mk role) := by
  rw [placed, ← List.filterMap_eq_map]
  apply List.filterMap_congr
  intro e member
  rw [each e member]
  rfl

theorem SentRun.role {run : String × List Entry} {m : Json} (sent : SentRun key Sent run m) :
    m.get? "role" = some (.str run.1) := by
  obtain ⟨elems, holds, _⟩ := sent
  rw [holds.under]
  exact List.lookup_cons_self

theorem SentRun.elements {run : String × List Entry} {m : Json} (other : key ≠ "role")
    (sent : SentRun key Sent run m) : List.Forall₂ Sent run.2 (m.elementsAt key) := by
  obtain ⟨elems, holds, each⟩ := sent
  have listed : m.get? key = some (.arr elems) := by
    rw [holds.under, Json.lookup_cons_of_ne other, List.lookup_cons_self]
  rwa [Json.elementsAt_of_get? listed]

section

variable {runs : List (String × List Entry)} {messages : List Json}

theorem SentRun.roles (sent : List.Forall₂ (SentRun key Sent) runs messages) :
    messages.map (·.get? "role") = runs.map fun run => some (.str run.1) := by
  induction sent with
  | nil => rfl
  | cons here _ ih => rw [List.map_cons, List.map_cons, here.role, ih]

/-- Messages that follow each other have different roles if runs do. -/
theorem SentRun.apart (sent : List.Forall₂ (SentRun key Sent) runs messages)
    (apart : runs.IsChain fun run run' => run.1 ≠ run'.1) :
    messages.IsChain fun m m' => m.get? "role" ≠ m'.get? "role" := by
  have roles : (runs.map fun run => some (Json.str run.1)).IsChain (· ≠ ·) := by
    apply (List.isChain_map _).2
    exact apart.imp fun run run' different same => different (by simpa using same)
  rw [← SentRun.roles sent] at roles
  exact (List.isChain_map _).1 roles

/-- No message is empty if no run is. -/
theorem SentRun.nonempty (other : key ≠ "role")
    (sent : List.Forall₂ (SentRun key Sent) runs messages) (some : ∀ run ∈ runs, run.2 ≠ []) :
    ∀ m ∈ messages, m.elementsAt key ≠ [] := by
  intro m member empty
  obtain ⟨run, among, here⟩ := sent.exists_of_mem member
  have each := here.elements other
  rw [empty] at each
  exact some run among (List.forall₂_nil_right_iff.1 each)

/-- What messages list is what is sent for the entries of the runs, in their order. -/
theorem SentRun.listed (other : key ≠ "role")
    (sent : List.Forall₂ (SentRun key Sent) runs messages) :
    List.Forall₂ (SentUnder Sent) (Runs.flat runs) (listedUnder key messages) := by
  apply List.rel_flatMap sent
  intro run m here
  apply List.rel_map (R := Sent) _ (here.elements other)
  intro e elem there
  exact ⟨here.role, there⟩

end

/-- Runs of things that are made of entries and stand under roles with names are sent for the runs
of the entries under the names. -/
theorem SentRun.of_cut {ρ β : Type} [DecidableEq ρ] {name : ρ → String} {make : Entry → β}
    {toJson : ρ × List β → Json} {order : String × List Entry → String × List Entry}
    (apart : Function.Injective name)
    (each : ∀ role es, SentRun key Sent (order (name role, es)) (toJson (role, es.map make)))
    (role? : Entry → Option ρ) (entries : List Entry) :
    List.Forall₂ (SentRun key Sent)
      ((Runs.cut (placed (fun e => (role? e).map name) entries)).map order)
      ((Runs.cut ((placed role? entries).map (Prod.map id make))).map toJson) := by
  have names : placed (fun e => (role? e).map name) entries =
      (placed role? entries).map (Prod.map name id) := by
    simp only [placed, List.map_filterMap, Option.map_map]
    rfl
  rw [names, Runs.cut_map apart, Runs.cut_map Function.injective_id, List.map_map, List.map_map]
  apply List.forall₂_map_left_iff.2
  apply List.forall₂_map_right_iff.2
  apply List.forall₂_same.2
  intro run _
  change SentRun key Sent (order (name run.1, run.2.map id)) _
  rw [List.map_id]
  exact each run.1 run.2

end ChatRelay
