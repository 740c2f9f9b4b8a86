import ChatRelay.Converter

/-!
# The id of a response

A response has the id that the vendor gives in the reply, and a fresh one if there is none. The
fresh id is of no other use.
-/
namespace ChatRelay

/-- The id that a reply has from the vendor. -/
def Vendor.replyId? (v : Vendor) (body : Json) : Option String :=
  match v with
  | .claude => Reply.string? body "id"
  | .openai => Reply.string? body "id"
  | .gemini => Reply.string? body "responseId"

namespace Converter

/-- A response has the id of the vendor's reply, or the fresh one. -/
theorem responseOfBody_id (c : Converter) (freshId session : String) (body : Json) :
    (c.responseOfBody freshId session body).id = (c.vendor.replyId? body).getD freshId := by
  unfold responseOfBody
  cases c.vendor <;> rfl

/-- A fresh id is of use for the id of a response only. -/
theorem responseOfBody_freshId (c : Converter) (freshId freshId' session : String) (body : Json) :
    c.responseOfBody freshId' session body =
      { c.responseOfBody freshId session body with
        id := (c.vendor.replyId? body).getD freshId' } := by
  unfold responseOfBody
  cases c.vendor <;> rfl

end Converter
end ChatRelay
