import ChatRelay.Conversation.Input
import ChatRelay.RelayError
import ChatRelay.Vendor.Claude.Payload
import ChatRelay.Vendor.Claude.Reply
import ChatRelay.Vendor.Gemini.Payload
import ChatRelay.Vendor.Gemini.Reply
import ChatRelay.Vendor.OpenAi.Payload
import ChatRelay.Vendor.OpenAi.Reply

/-!
# Converters

A converter is a vendor with its settings. It turns a conversation and a request into the vendor's
payload, and the vendor's reply into the canonical response. Both directions are functions: the id
of a response that has none in the reply is given from outside.
-/
namespace ChatRelay

/-- A vendor with its settings; only Claude uses the budget. -/
structure Converter where
  vendor : Vendor
  model : Option String
  budget : Budget
  deriving DecidableEq, Repr

namespace Converter

/-- A vendor without settings. -/
def ofVendor (v : Vendor) : Converter := ⟨v, none, .standard⟩

def withModel (c : Converter) (model : String) : Converter := { c with model := some model }

/-- Sets the budget, which zero leaves as it is. -/
def withBudget (c : Converter) (tokens : UInt32) : Converter :=
  { c with budget := (Budget.ofUInt32? tokens).getD c.budget }

def name (c : Converter) : String := c.vendor.name

def payloadOfItems (c : Converter) (items : List Item) (r : Request) : Json :=
  let t := Transcript.ofItems items
  match c.vendor with
  | .claude => (Claude.Payload.make c.model c.budget t r).toJson
  | .openai => (OpenAi.Payload.make c.model t r).toJson
  | .gemini => (Gemini.Payload.make t r).toJson

/-- The payload of a history and a request's new input. -/
def payload (c : Converter) (history : List Item) (r : Request) : Except RelayError Json :=
  match Input.parse r.input with
  | .ok items => .ok (c.payloadOfItems (history ++ items) r)
  | .error fault => .error (.invalidInput fault.message)

def wantsObjects (c : Converter) : Bool := c.vendor ≠ .openai

def payloadEvents (c : Converter) (history : List Item) (r : Request) : List Event :=
  match Input.parse r.input with
  | .ok items => Transcript.events c.wantsObjects (history ++ items)
  | .error _ => []

/-- The response that a reply's body stands for. -/
def responseOfBody (c : Converter) (freshId session : String) (body : Json) : Response :=
  match c.vendor with
  | .claude => Claude.Reply.response c.model freshId session body
  | .openai => OpenAi.Reply.response c.model freshId session body
  | .gemini => Gemini.Reply.response c.model freshId session body

def response (c : Converter) (freshId session : String) (reply : List Letter) :
    Except RelayError Response :=
  match Json.ofLetters reply with
  | .ok body => .ok (c.responseOfBody freshId session body)
  | .error fault => .error (.undecodableReply c.name fault)

def responseEvents (c : Converter) (reply : List Letter) : List Event :=
  match Json.ofLetters reply with
  | .ok body =>
    match c.vendor with
    | .claude => Claude.Reply.events body
    | .openai => OpenAi.Reply.events body
    | .gemini => Gemini.Reply.events body
  | .error _ => [.replyNotJson c.name]

end Converter
end ChatRelay
