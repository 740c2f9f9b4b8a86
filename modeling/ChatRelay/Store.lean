import ChatRelay.Conversation.Session

/-!
# Session stores

A store keeps the sessions in memory. Asking for a session never makes one; appending to it does,
even if nothing is appended.
-/
namespace ChatRelay

/-- The histories by session id, in the order in which the sessions began. -/
structure Store where
  histories : List (String × List Item)

namespace Store

def empty : Store := ⟨[]⟩

/-- The history of a session; a session that has not begun has none. -/
def history (s : Store) (id : String) : List Item :=
  ((s.histories.find? fun h => h.1 = id).map Prod.snd).getD []

def load (s : Store) (id : String) : Session := ⟨id, s.history id⟩

/-- Adds items to the history of an id, or begins one with them. -/
def extend (id : String) (items : List Item) : List (String × List Item) → List (String × List Item)
  | [] => [(id, items)]
  | (i, old) :: rest =>
    if i = id then (i, old ++ items) :: rest else (i, old) :: extend id items rest

def append (s : Store) (id : String) (items : List Item) : Store :=
  ⟨extend id items s.histories⟩

def size (s : Store) : Nat := s.histories.length

def isEmpty (s : Store) : Bool := s.histories.isEmpty

@[simp] theorem history_append_self (s : Store) (id : String) (items : List Item) :
    (s.append id items).history id = s.history id ++ items := by
  obtain ⟨histories⟩ := s
  simp only [append, history]
  induction histories with
  | nil => simp [extend]
  | cons h rest ih =>
    obtain ⟨i, old⟩ := h
    by_cases same : i = id
    · simp [extend, same]
    · simpa [extend, same] using ih

/-- Recording a turn leaves the other sessions as they are. -/
theorem history_append_of_ne (s : Store) {id other : String} (different : other ≠ id)
    (items : List Item) : (s.append id items).history other = s.history other := by
  have apart : ¬ id = other := fun same => different same.symm
  obtain ⟨histories⟩ := s
  simp only [append, history]
  induction histories with
  | nil => simp [extend, apart]
  | cons h rest ih =>
    obtain ⟨i, old⟩ := h
    by_cases same : i = id
    · subst same
      simp [extend, apart]
    · rw [extend, if_neg same]
      by_cases found : i = other
      · simp [found]
      · simpa [found] using ih

end Store
end ChatRelay
