import ChatRelay.Event

/-!
# Finish signals

A vendor says in a word of its own why it stopped. Only a word that contains `error`, in any case,
makes the response a failed one; a response without any candidate is complete and empty.
-/
namespace ChatRelay.FinishSignal

def isError (signal : String) : Bool :=
  Text.occursIn "error".toList (Text.asciiLower signal).toList

def status : Option String → Status
  | some signal => if isError signal then .failed else .completed
  | none => .completed

/-- A reply without candidates that is complete nevertheless is worth noting. -/
def events (signal : Option String) (hasCandidate : Bool) : List Event :=
  match status signal with
  | .completed => if hasCandidate then [] else [.noCandidates]
  | .failed => []

end ChatRelay.FinishSignal
