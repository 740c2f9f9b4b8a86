import ChatRelay.Conversation.Request
import ChatRelay.Conversation.Response

/-!
# Vendors

The vendors, and what is the same in the requests to all of them.
-/
namespace ChatRelay

/-- The vendors whose formats are known. -/
inductive Vendor where
  | claude | openai | gemini
  deriving DecidableEq, Repr

def Vendor.name : Vendor → String
  | .claude => "claude"
  | .openai => "openai"
  | .gemini => "gemini"

def Vendor.ofName? : String → Option Vendor
  | "claude" => some .claude
  | "openai" => some .openai
  | "gemini" => some .gemini
  | _ => none

/-- The number of tokens that a vendor may generate, which is never zero. -/
structure Budget where
  tokens : UInt32
  ne_zero : tokens ≠ 0
  deriving DecidableEq, Repr

namespace Budget

/-- The budget where no one sets one. -/
def standard : Budget := ⟨4096, by decide⟩

/-- The budget of a number; zero sets none. -/
def ofUInt32? (n : UInt32) : Option Budget := if h : n ≠ 0 then some ⟨n, h⟩ else none

end Budget

namespace Request

/-- The model to ask for: that of the request, else the configured one. -/
def modelOr (r : Request) (configured : Option String) : Option String := r.model?.or configured

def toolsAs? {α : Type} (r : Request) (f : ToolDefinition → α) : Option (List α) :=
  match r.tools with
  | [] => none
  | t :: ts => some (f t :: ts.map f)

end Request

namespace Response

/-- The model that a reply names, else the configured one, else none. -/
def modelName (named configured : Option String) : String := (named.or configured).getD ""

end Response
end ChatRelay
