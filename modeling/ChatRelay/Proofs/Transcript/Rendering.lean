import ChatRelay.Conversation.Request
import ChatRelay.Proofs.Transcript.Ledger

/-!
# Items rendered one by one

An item without text and one of an unknown type become nothing, every other item becomes one entry:
a text with its role, a call, or the result of one, these two with the ids and names from the
ledger. Rendering goes through the items themselves, and comes to what is said of their transcript.
Instructions come before all items unless they are blank.
-/
namespace ChatRelay

/-- Instructions that are not blank, without the blanks around them. -/
def Request.preface (r : Request) : List String :=
  match r.instructions with
  | some text => if Text.trim text = "" then [] else [Text.trim text]
  | none => []

theorem Request.preface_eq (r : Request) : r.preface = r.instructions?.toList := by
  unfold preface instructions?
  cases r.instructions with
  | none => rfl
  | some text => by_cases blank : Text.trim text = "" <;> simp [blank, Option.filter]

inductive Entry where
  | text (role : Role) (text : String)
  | call (id name : String) (arguments : Json)
  | result (id name : String) (output : Json)

namespace Entry

def isCall : Entry → Bool
  | .call _ _ _ => true
  | _ => false

def isResult : Entry → Bool
  | .result _ _ _ => true
  | _ => false

def ofText (role : Role) (text : String) : List Entry :=
  if text = "" then [] else [.text role text]

/-- What an item is rendered as after the calls of a ledger, and the ledger after it. -/
def ofItem (l : CallLedger) : Item → List Entry × CallLedger
  | .message role content => (ofText role content.plainText, l)
  | .text role content => (ofText (role.getD .assistant) content.plainText, l)
  | .call c => ([.call (l.call c).1.id c.name c.arguments], (l.call c).2)
  | .output o => ([.result (l.output o).1.id (l.output o).1.name o.output], (l.output o).2)
  | .unknown => ([], l)

/-- What is said with an entry. A tool's text counts as one of the client. -/
def utterance : Entry → Utterance
  | .text .system s => .system s
  | .text .assistant s => .said .model s
  | .text .user s | .text .tool s => .said .client s
  | .call id name arguments => .call id name arguments
  | .result id name output => .result id name output

/-- The entries that items are rendered as after the calls of a ledger. -/
def after (l : CallLedger) : List Item → List Entry
  | [] => []
  | item :: rest => (ofItem l item).1 ++ after (ofItem l item).2 rest

end Entry

/-- The entries that a conversation is rendered as. -/
def rendered (items : List Item) : List Entry := Entry.after .empty items

def CallLedger.past (l : CallLedger) (items : List Item) : CallLedger :=
  items.foldl (fun l item => (Entry.ofItem l item).2) l

namespace Entry

theorem map_utterance_ofText (role : Role) (text : String) :
    (ofText role text).map utterance = (Transcript.utterance? role text).toList := by
  unfold ofText Transcript.utterance?
  by_cases empty : text = ""
  · rw [if_pos empty, if_pos empty]
    rfl
  · rw [if_neg empty, if_neg empty]
    cases role <;> rfl

/-- An item is rendered as what it says, and leaves the same ledger. -/
theorem ofItem_eq (l : CallLedger) (item : Item) :
    (ofItem l item).1.map utterance = (Transcript.step l item).1.toList ∧
      (ofItem l item).2 = (Transcript.step l item).2 := by
  cases item with
  | message role content => exact ⟨map_utterance_ofText role _, rfl⟩
  | text role content => exact ⟨map_utterance_ofText _ _, rfl⟩
  | call c => exact ⟨by simp [ofItem, utterance, Transcript.step, CallLedger.call_name], rfl⟩
  | output o => exact ⟨rfl, rfl⟩
  | unknown => exact ⟨rfl, rfl⟩

/-- A conversation says what its entries say. -/
theorem map_utterance_after (l : CallLedger) (items : List Item) :
    (after l items).map utterance = Transcript.after l items := by
  induction items generalizing l with
  | nil => rfl
  | cons item rest ih =>
    obtain ⟨said, same⟩ := ofItem_eq l item
    rw [after, List.map_append, said, same, ih, Transcript.after_cons]

theorem ofItem_cases (l : CallLedger) (item : Item) :
    (ofItem l item).1 = [] ∨ ∃ e, (ofItem l item).1 = [e] := by
  have ofText (role : Role) (text : String) :
      ofText role text = [] ∨ ∃ e, ofText role text = [e] := by
    unfold Entry.ofText
    split
    · exact .inl rfl
    · exact .inr ⟨_, rfl⟩
  cases item with
  | message role content => exact ofText role _
  | text role content => exact ofText _ _
  | call c => exact .inr ⟨_, rfl⟩
  | output o => exact .inr ⟨_, rfl⟩
  | unknown => exact .inl rfl

/-- An entry at some place of what is rendered comes from an item at the same place. -/
theorem exists_of_after_eq {l : CallLedger} {items : List Item} {first others : List Entry}
    {e : Entry} (split : after l items = first ++ e :: others) :
    ∃ before item rest, items = before ++ item :: rest ∧ after l before = first ∧
      (ofItem (l.past before) item).1 = [e] := by
  induction items generalizing l first with
  | nil => simp [after] at split
  | cons item rest ih =>
    have further {first' : List Entry} (own : (ofItem l item).1 ++ first' = first)
        (later : after (ofItem l item).2 rest = first' ++ e :: others) :
        ∃ before item' rest', item :: rest = before ++ item' :: rest' ∧ after l before = first ∧
          (ofItem (l.past before) item').1 = [e] := by
      obtain ⟨before, item', rest', split, same, here⟩ := ih later
      exact ⟨item :: before, item', rest', by rw [split]; rfl, by rw [after, same, own], here⟩
    rw [after] at split
    rcases ofItem_cases l item with nothing | ⟨e', one⟩
    · rw [nothing, List.nil_append] at split
      exact further (by rw [nothing, List.nil_append]) split
    · rw [one] at split
      cases first with
      | nil =>
        obtain ⟨rfl, _⟩ := List.cons.inj split
        exact ⟨[], item, rest, rfl, rfl, one⟩
      | cons e'' first' =>
        obtain ⟨rfl, later⟩ := List.cons.inj split
        exact further (by rw [one]; rfl) later

/-- Only an output is rendered as a result. -/
theorem exists_output_of_ofItem_eq {l : CallLedger} {item : Item} {id name : String}
    {output : Json} (one : (ofItem l item).1 = [.result id name output]) :
    ∃ o, item = .output o ∧ (l.output o).1 = ⟨id, name⟩ ∧ o.output = output := by
  have notText (role : Role) (text : String) : ofText role text ≠ [.result id name output] := by
    unfold ofText
    split <;> simp
  cases item with
  | message role content => exact absurd one (notText _ _)
  | text role content => exact absurd one (notText _ _)
  | call c => cases one
  | output o =>
    obtain ⟨rfl, rfl, rfl⟩ := Entry.result.inj (List.cons.inj one).1
    exact ⟨o, rfl, rfl, rfl⟩
  | unknown => cases one

end Entry

/-- What is rendered says what the transcript does. -/
theorem map_utterance_rendered (items : List Item) :
    (rendered items).map Entry.utterance = Transcript.ofItems items :=
  Entry.map_utterance_after .empty items

end ChatRelay
