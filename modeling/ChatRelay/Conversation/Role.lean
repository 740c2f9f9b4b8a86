import ChatRelay.Json.Decode
import ChatRelay.Text.Blank

/-!
# Roles

Who speaks in a conversation. Every text and every JSON value names a role: what is not the name of
another one means the user.
-/
namespace ChatRelay

/-- The author of an item. -/
inductive Role where
  | system | user | assistant | tool
  deriving DecidableEq, Repr

namespace Role

/-- The role of a name, without regard to blanks around it and to the case of its letters. -/
def ofName (s : String) : Role :=
  match Text.asciiLower (Text.trim s) with
  | "system" => .system
  | "developer" => .system
  | "assistant" => .assistant
  | "tool" => .tool
  | _ => .user

def name : Role → String
  | .system => "system"
  | .user => "user"
  | .assistant => "assistant"
  | .tool => "tool"

def ofJson : Json → Role
  | .str s => ofName s
  | _ => .user

def toJson (r : Role) : Json := .str r.name

def reader : Json.Reader Role := fun p d => (Json.Reader.json p d).map ofJson

end Role
end ChatRelay
