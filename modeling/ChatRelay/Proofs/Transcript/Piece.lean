import ChatRelay.Proofs.Transcript.Rendering

/-!
# What a vendor says

A vendor's reply is a list of pieces, each a text or a call. A response holds them as items, and
such items are rendered as the pieces again: texts without their blanks, calls in their order, those
without an id numbered.
-/
namespace ChatRelay

/-- A piece of what a vendor says. -/
inductive Piece where
  | text (text : String)
  | call (id : Option String) (name : String) (arguments : Json)

namespace Piece

open CallLedger

/-- The piece of a text, if it is not blank. -/
def ofText? (s : String) : Option Piece :=
  if Text.trim s = "" then none else some (.text (Text.trim s))

/-- The entries of pieces, where calls without an id get the ids that follow on a number of made-up
ones. -/
def number (k : Nat) : List Piece → List Entry
  | [] => []
  | .text s :: rest => .text .assistant s :: number k rest
  | .call (some id) name arguments :: rest => .call id name arguments :: number k rest
  | .call none name arguments :: rest =>
    .call (madeUpId (k + 1)) name arguments :: number (k + 1) rest

/-- Texts become texts of the assistant, and calls become calls. -/
theorem of_mem_number {k : Nat} {ps : List Piece} {e : Entry} (member : e ∈ number k ps) :
    (∃ s, .text s ∈ ps ∧ e = .text .assistant s) ∨ e.isCall = true := by
  have further {p : Piece} {rest : List Piece}
      (later : (∃ s, .text s ∈ rest ∧ e = .text .assistant s) ∨ e.isCall = true) :
      (∃ s, .text s ∈ p :: rest ∧ e = .text .assistant s) ∨ e.isCall = true := by
    rcases later with ⟨s, among, same⟩ | isCall
    · exact .inl ⟨s, List.mem_cons_of_mem p among, same⟩
    · exact .inr isCall
  fun_induction number k ps with
  | case1 k => exact absurd member List.not_mem_nil
  | case2 k s rest ih =>
    rcases List.mem_cons.1 member with rfl | there
    · exact .inl ⟨s, List.mem_cons_self, rfl⟩
    · exact further (ih there)
  | case3 k id name arguments rest ih | case4 k name arguments rest ih =>
    rcases List.mem_cons.1 member with rfl | there
    · exact .inr rfl
    · exact further (ih there)

/-- The piece that an item of a response stands for. -/
def ofItem? : Item → Option Piece
  | .text none (.text s) => ofText? s
  | .call c => some (.call (given c.callId) c.name c.arguments)
  | _ => none

/-- Whether an item is one that responses are made of. -/
def IsSource : Item → Prop
  | .text none (.text _) => True
  | .call _ => True
  | _ => False

/-- Items of a response, and the pieces they stand for. -/
structure Said (items : List Item) (pieces : List Piece) : Prop where
  sources : ∀ item ∈ items, IsSource item
  pieces : items.filterMap ofItem? = pieces

namespace Said

theorem nil : Said [] [] := ⟨fun _ member => (List.not_mem_nil member).elim, rfl⟩

theorem call (c : FunctionCall) : Said [.call c] [.call (given c.callId) c.name c.arguments] :=
  ⟨fun _ member => List.mem_singleton.1 member ▸ trivial, rfl⟩

/-- A text that is not empty becomes an item, which says it unless it is blank. -/
theorem ofModelText (s : Option String) :
    Said ((s.filter fun s => s ≠ "").map Item.ofModelText).toList (s.bind ofText?).toList := by
  cases s with
  | none => exact nil
  | some s =>
    by_cases empty : s = ""
    · subst empty
      exact nil
    · have kept : (some s).filter (fun s => s ≠ "") = some s := by simp [empty]
      rw [kept]
      refine ⟨fun _ member => by rw [List.mem_singleton.1 member]; trivial, ?_⟩
      cases said : ofText? s <;> simp [Item.ofModelText, ofItem?, said]

theorem append {items more : List Item} {pieces others : List Piece}
    (first : Said items pieces) (second : Said more others) :
    Said (items ++ more) (pieces ++ others) where
  sources item member := (List.mem_append.1 member).elim (first.sources item) (second.sources item)
  pieces := by rw [List.filterMap_append, first.pieces, second.pieces]

theorem filterMap {α : Type} {item? : α → Option Item} {piece? : α → Option Piece}
    (each : ∀ a, Said (item? a).toList (piece? a).toList) (l : List α) :
    Said (l.filterMap item?) (l.filterMap piece?) := by
  rw [List.filterMap_eq_flatMap_toList, List.filterMap_eq_flatMap_toList]
  induction l with
  | nil => exact nil
  | cons a rest ih => exact (each a).append ih

/-- Items of a response are rendered as its pieces, and leave no trace in the ledger but their
calls. -/
theorem after_eq {items : List Item} {pieces : List Piece} (said : Said items pieces)
    (l : CallLedger) : Entry.after l items = number l.madeUp pieces := by
  obtain ⟨sources, rfl⟩ := said
  induction items generalizing l with
  | nil => rfl
  | cons item rest ih =>
    have source := sources item List.mem_cons_self
    have others := fun l => ih l fun item member => sources item (List.mem_cons_of_mem _ member)
    rw [Entry.after, others, List.filterMap_cons]
    cases item with
    | text role content =>
      cases role with
      | some role => exact source.elim
      | none =>
        cases content with
        | text s =>
          have trimmed : (Content.text s).plainText = Text.trim s := rfl
          rw [Entry.ofItem, ofItem?, ofText?, Entry.ofText, trimmed]
          by_cases blank : Text.trim s = ""
          · simp only [blank, if_true, List.nil_append]
          · simp only [blank, if_false, number, Option.getD_none, List.singleton_append]
        | _ => exact source.elim
    | call c =>
      rw [Entry.ofItem, ofItem?]
      cases own : given c.callId with
      | none => simp only [call_none own, List.singleton_append, number, nextId_eq]
      | some id => simp only [call_own own, List.singleton_append, number]
    | _ => exact source.elim

/-- Items of a response are rendered as the pieces they stand for, under made-up ids from the first.
-/
theorem rendered_eq {items : List Item} {pieces : List Piece} (said : Said items pieces) :
    rendered items = number 0 pieces := said.after_eq .empty

end Said
end Piece
end ChatRelay
