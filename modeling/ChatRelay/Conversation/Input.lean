import ChatRelay.Conversation.Item

/-!
# New input

A request's input is a text, which is a message of the user, or a list of items. A list is read as
a whole: the first element that is no item is the fault of the list. An object with a role and
without a type is a message.
-/
namespace ChatRelay

open Json (DecodeFault)

/-- Why an input is no list of items. -/
inductive InputFault where
  | notItems (kind : Json.Kind)
  | notObject (index : Nat) (kind : Json.Kind)
  | noTypeOrRole (index : Nat)
  | notItem (index : Nat) (fault : DecodeFault)
  deriving DecidableEq, Repr

namespace InputFault

def message : InputFault → String
  | .notItems kind => "input must be a string or a list of items, got " ++ kind.name
  | .notObject index kind =>
    "input[" ++ toString index ++ "] must be an object, got " ++ kind.name
  | .noTypeOrRole index => "input[" ++ toString index ++ "] has neither a type nor a role"
  | .notItem index fault =>
    "input[" ++ toString index ++ "] is not a valid item: " ++ fault.message

end InputFault

namespace Input

def parseElement (index : Nat) (v : Json) : Except InputFault Item :=
  match v with
  | .obj members =>
    let typed : Except InputFault Json :=
      if (Json.Members.find? "type" members).isSome then .ok v
      else if (Json.Members.find? "role" members).isSome then
        .ok (.obj (Json.Members.insert "type" (.str "message") members))
      else .error (.noTypeOrRole index)
    typed.bind fun v => (Json.Reader.ofJson Item.reader v).mapError (.notItem index)
  | _ => .error (.notObject index v.kind)

def parseFrom (index : Nat) : List Json → Except InputFault (List Item)
  | [] => .ok []
  | v :: rest => do
    let item ← parseElement index v
    let items ← parseFrom (index + 1) rest
    return item :: items

def parse : Json → Except InputFault (List Item)
  | .str s => .ok [.ofUserText s]
  | .arr elems => parseFrom 0 elems
  | v => .error (.notItems v.kind)

end Input
end ChatRelay
