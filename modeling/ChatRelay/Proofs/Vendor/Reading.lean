import ChatRelay.Proofs.Json.Lookup
import ChatRelay.Transcript.Basic
import Mathlib.Data.List.Basic

/-!
# Reading payloads back

What a vendor is told is read back from the JSON it is sent, without regard to how that was made:
the texts under a key, the elements of the array under a key. Beside it stands what an utterance
tells of each kind, to which what is read back is compared.
-/
namespace ChatRelay

namespace Json

/-- The elements of an array; other values have none. -/
def elements : Json → List Json
  | .arr elems => elems
  | _ => []

def textAt? (v : Json) (key : String) : Option String := (v.get? key).bind asString?

def elementsAt (v : Json) (key : String) : List Json := ((v.get? key).map elements).getD []

theorem elementsAt_of_get? {v : Json} {key : String} {elems : List Json}
    (holds : v.get? key = some (.arr elems)) : v.elementsAt key = elems := by
  rw [elementsAt, holds]
  rfl

end Json

/-- A call as it is sent: its id, its name, and its arguments as an object. -/
structure SentCall where
  id : String
  name : String
  input : Json

namespace Utterance

/-- A text of the system. -/
def system? : Utterance → Option String
  | .system text => some text
  | _ => none

/-- A text that is not the system's, and whose it is. -/
def said? : Utterance → Option (Speaker × String)
  | .said speaker text => some (speaker, text)
  | _ => none

def call? : Utterance → Option SentCall
  | .call id name arguments => some ⟨id, name, .obj (Arguments.members arguments)⟩
  | _ => none

/-- A result with the id of the call it answers. -/
def result? : Utterance → Option (String × String)
  | .result id _ output => some (id, Output.text output)
  | _ => none

end Utterance

theorem Transcript.systemTexts_eq (t : Transcript) :
    t.systemTexts = t.filterMap Utterance.system? :=
  List.filterMap_congr fun u _ => by cases u <;> rfl

end ChatRelay
