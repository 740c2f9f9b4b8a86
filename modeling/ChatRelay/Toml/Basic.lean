/-!
# TOML tables

The values of TOML. A table remembers how it came about, because that decides what may be added to
it later: a header names a table once, a dotted key adds only to tables that dotted keys made, and
nothing is ever added to a table written in braces.
-/
namespace ChatRelay.Toml

/-- How a table came about. -/
inductive Origin where
  /-- A header names it. -/
  | header
  /-- The header of a table inside it does. -/
  | implied
  /-- A dotted key does. -/
  | dotted
  /-- It is written in braces. -/
  | inline
  deriving DecidableEq, Repr

inductive Value where
  | text (s : String)
  | truth (b : Bool)
  /-- A whole number, or none where something else than a digit stands among its digits. -/
  | integer (n : Option Int)
  /-- A number with a fraction or an exponent, or one that is infinite or none, as it is written. -/
  | fraction (written : String)
  /-- A date, a time or both, as it is written. -/
  | moment (written : String)
  /-- An array; `ofTables` if headers in double brackets made it. -/
  | array (elems : List Value) (ofTables : Bool)
  | table (origin : Origin) (members : List (String × Value))
  deriving Repr

/-- The members of a table in the order in which their keys first appear. -/
abbrev Members := List (String × Value)

namespace Members

def find? (key : String) : Members → Option Value
  | [] => none
  | (k, v) :: rest => if k = key then some v else find? key rest

/-- Replaces the value of a key where it stands, or adds the key at the end. -/
def put (key : String) (v : Value) : Members → Members
  | [] => [(key, v)]
  | (k, w) :: rest => if k = key then (k, v) :: rest else (k, w) :: put key v rest

def erase (key : String) (ms : Members) : Members := ms.filter fun m => m.1 ≠ key

/-- Adds a key, which may not be there already. -/
def addNew (key : String) (v : Value) (ms : Members) : Option Members :=
  match find? key ms with
  | none => some (ms ++ [(key, v)])
  | some _ => none

/-- Adds a key with the dotted keys before it, of which `path` are left. They lead through tables
that no header names, or through the last table of an array of tables; the table that they end at
(`here` is how it came about) has to be made by dotted keys, unless there are none. -/
def assignBelow (key : String) (v : Value) (here : Origin) : List String → Members → Option Members
  | [], ms => if here = .dotted then addNew key v ms else none
  | k :: path, ms =>
    match find? k ms with
    | none =>
      (assignBelow key v .dotted path []).map fun inner => ms ++ [(k, .table .dotted inner)]
    | some (.table .header _) => none
    | some (.table .inline _) => none
    | some (.table origin inner) =>
      (assignBelow key v origin path inner).map fun inner => put k (.table origin inner) ms
    | some (.array elems true) =>
      match elems.getLast? with
      | some (.table origin inner) =>
        (assignBelow key v origin path inner).map fun inner =>
          put k (.array (elems.dropLast ++ [.table origin inner]) true) ms
      | _ => none
    | some _ => none

/-- Adds a key with the dotted keys before it; no key is given twice. -/
def assign (key : String) (v : Value) (path : List String) (ms : Members) : Option Members :=
  if path.isEmpty then addNew key v ms else assignBelow key v .header path ms

/-- Opens the table that a header in single brackets names. One that was only implied before moves
to the end. -/
def openTable (key : String) (ms : Members) : Option Members :=
  match find? key ms with
  | none => some (ms ++ [(key, .table .header [])])
  | some (.table .implied inner) => some (erase key ms ++ [(key, .table .header inner)])
  | some _ => none

/-- Opens a new table of the array that a header in double brackets names. -/
def openElement (key : String) (ms : Members) : Option Members :=
  match find? key ms with
  | none => some (ms ++ [(key, .array [.table .header []] true)])
  | some (.array elems true) => some (put key (.array (elems ++ [.table .header []]) true) ms)
  | some _ => none

/-- Changes the members of the table at a header's path; the tables on the way may be any that can
still grow, and of an array of tables it is the last one. -/
def atPath (change : Members → Option Members) : List String → Members → Option Members
  | [], ms => change ms
  | k :: path, ms =>
    match find? k ms with
    | none => (atPath change path []).map fun inner => put k (.table .implied inner) ms
    | some (.table .inline _) => none
    | some (.table origin inner) =>
      (atPath change path inner).map fun inner => put k (.table origin inner) ms
    | some (.array elems true) =>
      match elems.getLast? with
      | some (.table origin inner) =>
        (atPath change path inner).map fun inner =>
          put k (.array (elems.dropLast ++ [.table origin inner]) true) ms
      | _ => none
    | some _ => none

end Members
end ChatRelay.Toml
