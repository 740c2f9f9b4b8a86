import ChatRelay.Event

/-!
# Arguments and outputs on the wire

Some vendors want the arguments of a call and the output of a function as JSON objects, others want
them as texts. A text that holds a JSON object stands for that object.
-/
namespace ChatRelay

/-- The object that a text holds, if it holds one. -/
def heldObject? (s : String) : Option Json.Members :=
  match Json.ofString s with
  | .ok (.obj members) => some members
  | _ => none

namespace Arguments

/-- Arguments as the members of an object; what is no object has none. -/
def members : Json → Json.Members
  | .obj members => members
  | .str s => (heldObject? s).getD []
  | _ => []

def text : Json → String
  | .str s => s
  | .null => "\x7b\x7d"
  | v => v.compact

/-- Arguments that had to be dropped although they were given as text. -/
def events : Json → List Event
  | .str s => if (heldObject? s).isSome then [] else [.argumentsNotObject]
  | _ => []

end Arguments

namespace Output

/-- An output as the members of an object; what is no object becomes the member `result`. -/
def members : Json → Json.Members
  | .obj members => members
  | .str s => (heldObject? s).getD [("result", .str s)]
  | v => [("result", v)]

def text : Json → String
  | .str s => s
  | .null => ""
  | v => v.compact

end Output
end ChatRelay
