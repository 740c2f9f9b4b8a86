import ChatRelay.Conversation.Item

/-!
# Sessions

A session is the history of one conversation. Items are only ever added at its end.
-/
namespace ChatRelay

open Json (Reader)
open Json.Reader (RecordField)

/-- The history of one conversation, oldest item first. -/
structure Session where
  id : String
  items : List Item
  deriving Repr, BEq

namespace Session

/-- A conversation in which nothing has been said. -/
def ofId (id : String) : Session := ⟨id, []⟩

def append (s : Session) (items : List Item) : Session := { s with items := s.items ++ items }

def fields : List (RecordField Session) := [
  .make "id" true Reader.string fun s id => { s with id := id },
  .make "items" false (Reader.list Item.reader) fun s l => { s with items := l }]

def reader : Reader Session := Reader.record "struct Session" fields (ofId "")

def toJson (s : Session) : Json :=
  Json.object [("id", .str s.id), ("items", .arr (s.items.map Item.toJson))]

end Session
end ChatRelay
