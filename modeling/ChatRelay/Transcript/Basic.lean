import ChatRelay.Transcript.CallLedger
import ChatRelay.Transcript.Arguments

/-!
# Transcripts

A transcript is what a conversation says, one utterance for each item that says anything: texts
without their blanks, calls and results with the ids and names they are sent with. It is the same
for every vendor; the vendors differ only in how they group its utterances into messages.
-/
namespace ChatRelay

/-- Whose text it is, apart from the system's. -/
inductive Speaker where
  | model | client
  deriving DecidableEq, Repr

/-- What one item says. -/
inductive Utterance where
  | system (text : String)
  | said (speaker : Speaker) (text : String)
  | call (id name : String) (arguments : Json)
  | result (id name : String) (output : Json)
  deriving Repr, BEq

abbrev Transcript := List Utterance

namespace Transcript

/-- The utterance of a text with a role; an empty text says nothing. -/
def utterance? (role : Role) (text : String) : Option Utterance :=
  if text = "" then none
  else
    match role with
    | .system => some (.system text)
    | .assistant => some (.said .model text)
    | .user => some (.said .client text)
    | .tool => some (.said .client text)

/-- What an item says after the calls of the ledger, and the ledger after it. -/
def step (l : CallLedger) : Item → Option Utterance × CallLedger
  | .message r c => (utterance? r c.plainText, l)
  | .text r c => (utterance? (r.getD .assistant) c.plainText, l)
  | .call c =>
    let (p, l') := l.call c
    (some (.call p.id p.name c.arguments), l')
  | .output o =>
    let (p, l') := l.output o
    (some (.result p.id p.name o.output), l')
  | .unknown => (none, l)

/-- What the items say after the calls of a ledger. -/
def after (l : CallLedger) : List Item → Transcript
  | [] => []
  | item :: rest =>
    let (u, l') := step l item
    u.toList ++ after l' rest

def ofItems (items : List Item) : Transcript := after .empty items

def systemTexts (t : Transcript) : List String := t.filterMap fun
  | .system text => some text
  | _ => none

def contentEvents : Content → List Event
  | .other v => [.oddContent v.kind]
  | _ => []

/-- What is worth noting about an item; `objects` says that arguments are sent as objects. -/
def itemEvents (objects : Bool) (l : CallLedger) : Item → List Event
  | .message _ c => contentEvents c
  | .text _ c => contentEvents c
  | .call c => if objects then Arguments.events c.arguments else []
  | .output o => l.outputEvents o
  | .unknown => []

def eventsAfter (objects : Bool) (l : CallLedger) : List Item → List Event
  | [] => []
  | item :: rest => itemEvents objects l item ++ eventsAfter objects (step l item).2 rest

def events (objects : Bool) (items : List Item) : List Event := eventsAfter objects .empty items

end Transcript
end ChatRelay
