import ChatRelay.Toml.Lexeme
import ChatRelay.Toml.Scalar

/-!
# Reading TOML

A document is a sequence of lines, each a header, an assignment or nothing, with comments at their
ends.
-/
namespace ChatRelay.Toml

/-- What follows blanks, comments and line breaks. -/
def skipLines : Nat → List Char → Option (List Char)
  | 0, cs => some cs
  | fuel + 1, cs =>
    match skipSpace cs with
    | '#' :: rest => (skipComment rest).bind (skipLines fuel)
    | rest =>
      match lineBreak? rest with
      | some rest => skipLines fuel rest
      | none => some rest

/-- Blanks, comments and line breaks inside brackets. -/
def skipInside (cs : List Char) : Option (List Char) := skipLines (2 * cs.length + 1) cs

/-- A value in no brackets. A blank may stand between a date and the time of day. -/
def plainValue (cs : List Char) : Option (Value × List Char) :=
  match text? cs with
  | some (s, rest) => some (.text s, rest)
  | none =>
    let (first, rest) := word cs
    match rest with
    | ' ' :: c :: more =>
      if isDate first && c.isDigit then
        let (second, rest) := word (c :: more)
        (scalar? (first ++ ' ' :: second)).map fun v => (v, rest)
      else (scalar? first).map fun v => (v, rest)
    | rest => (scalar? first).map fun v => (v, rest)

mutual
/-- A value, in which `depth` more levels of arrays and tables in braces are allowed. Each letter
starts at most two of these functions, and each start takes one unit of fuel. -/
def value (depth : Nat) : Nat → List Char → Option (Value × List Char)
  | 0, _ => none
  | fuel + 1, cs =>
    match cs with
    | '[' :: rest => if depth = 0 then none else elements (depth - 1) fuel [] rest
    | '{' :: rest => if depth = 0 then none else members (depth - 1) fuel [] rest
    | cs => plainValue cs

def elements (depth : Nat) : Nat → List Value → List Char → Option (Value × List Char)
  | 0, _, _ => none
  | fuel + 1, acc, cs => do
    match ← skipInside cs with
    | ']' :: rest => return (.array acc.reverse false, rest)
    | cs =>
      let (v, rest) ← value depth fuel cs
      match ← skipInside rest with
      | ',' :: rest => elements depth fuel (v :: acc) rest
      | ']' :: rest => return (.array (v :: acc).reverse false, rest)
      | _ => none

def members (depth : Nat) : Nat → Members → List Char → Option (Value × List Char)
  | 0, _, _ => none
  | fuel + 1, acc, cs => do
    match ← skipInside cs with
    | '}' :: rest => return (.table .inline acc, rest)
    | cs =>
      let (keys, rest) ← keyPath (cs.length + 1) cs
      let key ← keys.getLast?
      match ← skipInside rest with
      | '=' :: rest =>
        let (v, rest) ← value depth fuel (← skipInside rest)
        let acc ← Members.assign key v keys.dropLast acc
        match ← skipInside rest with
        | ',' :: rest => members depth fuel acc rest
        | '}' :: rest => return (.table .inline acc, rest)
        | _ => none
      | _ => none
end

def depthLimit : Nat := 80

/-- What has been read of a document: its members, and the path of the last header. -/
structure Draft where
  members : Members
  path : List String

namespace Draft

def openAt (change : String → Members → Option Members) (keys : List String) (d : Draft) :
    Option Draft := do
  let key ← keys.getLast?
  return ⟨← Members.atPath (change key) keys.dropLast d.members, keys⟩

def store (d : Draft) (key : String) (v : Value) (path : List String) : Option Draft := do
  return { d with members := ← Members.atPath (Members.assign key v path) d.path d.members }

end Draft

/-- The end of a line: blanks, a comment, and the line break or the end. -/
def endLine (cs : List Char) : Option (List Char) :=
  let cs := skipSpace cs
  let rest :=
    match cs with
    | '#' :: rest => skipComment rest
    | rest => some rest
  rest.bind fun rest => if rest.isEmpty then some [] else lineBreak? rest

def line (d : Draft) (cs : List Char) : Option (Draft × List Char) :=
  match cs with
  | '[' :: '[' :: rest => do
    let (keys, rest) ← keyPath (rest.length + 1) rest
    match rest with
    | ']' :: ']' :: rest => return (← d.openAt Members.openElement keys, rest)
    | _ => none
  | '[' :: rest => do
    let (keys, rest) ← keyPath (rest.length + 1) rest
    match rest with
    | ']' :: rest => return (← d.openAt Members.openTable keys, rest)
    | _ => none
  | _ => do
    let (keys, rest) ← keyPath (cs.length + 1) cs
    match rest, keys.getLast? with
    | '=' :: rest, some key =>
      let (v, rest) ← value depthLimit (2 * rest.length + 2) (skipSpace rest)
      return (← d.store key v keys.dropLast, rest)
    | _, _ => none

def lines : Nat → Draft → List Char → Option Members
  | 0, _, _ => none
  | fuel + 1, d, cs =>
    match skipSpace cs with
    | [] => some d.members
    | cs =>
      match lineBreak? cs with
      | some rest => lines fuel d rest
      | none =>
        match cs with
        | '#' :: _ => (endLine cs).bind (lines fuel d)
        | _ =>
          match line d cs with
          | some (d, rest) => (endLine rest).bind (lines fuel d)
          | none => none

/-- The members of a document, which may begin with a byte order mark. -/
def read? (s : String) : Option Members :=
  let cs := s.toList
  let cs := if cs.head? = some (Char.ofNat 0xFEFF) then cs.tail else cs
  lines (cs.length + 1) ⟨[], []⟩ cs

end ChatRelay.Toml
