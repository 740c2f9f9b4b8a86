import ChatRelay.Json.Decode
import ChatRelay.Text.Blank

/-!
# Content of an item

Content is a text, a list of typed blocks, or anything else. Every JSON value is content of one of
these shapes, and no part of it is lost: a block keeps the members this library does not know.
-/
namespace ChatRelay

/-- A typed block: its kind, its text member, and all its other members. -/
structure ContentBlock where
  kind : String
  text : Option Json
  extra : Json.Members
  deriving Repr, BEq

namespace ContentBlock

def ofText (kind text : String) : ContentBlock := ⟨kind, some (.str text), []⟩

def isText (b : ContentBlock) : Bool :=
  b.kind = "text" || b.kind = "input_text" || b.kind = "output_text"

/-- The text of a block whose kind is one of text; a text member of another type does not count. -/
def text? (b : ContentBlock) : Option String :=
  if b.isText then b.text.bind Json.asString? else none

def toJson (b : ContentBlock) : Json :=
  let withText :=
    match b.text with
    | some t => Json.Members.insert "text" t b.extra
    | none => b.extra
  .obj (Json.Members.insert "type" (.str b.kind) withText)

structure Draft where
  kind : Option String
  text : Option (Option Json)
  /-- Unknown members, the last one first. -/
  others : List (String × Json)

def Draft.empty : Draft := ⟨none, none, []⟩

def Draft.toBlock (s : Draft) : ContentBlock :=
  { kind := s.kind.getD ""
    text := s.text.join
    extra := Json.Members.ofList s.others.reverse }

open Json Json.Reader in
/-- Reads the members in their order; the two known ones may occur once. -/
def readMembers (p : Place) :
    Draft → List (Token String × Document) → Except DecodeFault Draft
  | s, [] => .ok s
  | s, (key, d) :: rest => do
    match ← liftText key.read with
    | "type" =>
      if s.kind.isSome then .error (.duplicateField "type")
      else readMembers p { s with kind := some (← string p d) } rest
    | "text" =>
      if s.text.isSome then .error (.duplicateField "text")
      else readMembers p { s with text := some (← optional json p d) } rest
    | name => readMembers p { s with others := (name, ← json p d) :: s.others } rest

open Json Json.Reader in
/-- A block is read from an object only. -/
def reader : Reader ContentBlock := fun p d =>
  match d.expose with
  | .obj members ending => do
    let s ← readMembers (← p.enter) .empty members
    liftText (Document.finish ending s.toBlock)
  | _ => mismatch d "struct ContentBlock"

end ContentBlock

inductive Content where
  | text (s : String)
  | blocks (bs : List ContentBlock)
  | other (v : Json)
  deriving Repr, BEq

namespace Content

def shape : Content → String
  | .text _ => "text"
  | .blocks _ => "blocks"
  | .other _ => "other"

def toJson : Content → Json
  | .text s => .str s
  | .blocks bs => .arr (bs.map ContentBlock.toJson)
  | .other v => v

open Json in
/-- The content that a document stands for, where `v` is the document's value. -/
def classify (p : Place) (d : Document) (v : Json) : Content :=
  match v, d.expose with
  | .str s, _ => .text s
  | _, .arr elems _ =>
    match elems.mapM (ContentBlock.reader p.setAside) with
    | .ok bs => .blocks bs
    | .error _ => .other v
  | _, _ => .other v

/-- Every value is content. -/
def ofJson (v : Json) : Content := classify .ofValue (.value v) v

def reader : Json.Reader Content := fun p d => (Json.Reader.json p d).map (classify p d)

/-- The plain text of content: a text without the blanks around it, or the texts of the blocks one
after another. -/
def plainText : Content → String
  | .text s => Text.trim s
  | .blocks bs => String.join (bs.filterMap ContentBlock.text?)
  | .other _ => ""

end Content
end ChatRelay
