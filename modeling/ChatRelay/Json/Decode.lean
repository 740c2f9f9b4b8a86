import ChatRelay.Json.Document
import ChatRelay.Json.Printer
import ChatRelay.Text.Quoted

/-!
# Reading typed values out of documents

A reader turns a document into a value of a type of its own or says what does not fit. A record is
read from an object, whose members may come in any order and of which unknown ones are skipped, or
from an array with the fields in their declared order. The first thing that does not fit, in the
order of the document, is the fault; fields that are missing are noticed last.
-/
namespace ChatRelay.Json

/-- What stands where something else was expected. -/
inductive Found where
  | null
  | bool (b : Bool)
  | integer (n : Int)
  | double (d : Double)
  | string (s : String)
  | sequence
  | map
  deriving DecidableEq, Repr

def Found.describe : Found → String
  | .null => "null"
  | .bool b => "boolean `" ++ String.ofList (boolChars b) ++ "`"
  | .integer n => "integer `" ++ String.ofList (integerChars n) ++ "`"
  | .double d => "floating point `" ++ String.ofList (doubleChars d) ++ "`"
  | .string s => "string " ++ Text.quoted s
  | .sequence => "sequence"
  | .map => "map"

inductive DecodeFault where
  /-- The text is not JSON. -/
  | text (f : TextFault)
  | invalidType (found : Found) (expected : String)
  | invalidValue (found : Found) (expected : String)
  | invalidLength (length : Nat) (expected : String)
  | missingField (name : String)
  | duplicateField (name : String)
  | unknownVariant (name : String) (expected : String)
  deriving DecidableEq, Repr

namespace DecodeFault

def message : DecodeFault → String
  | .text .malformed => "malformed text"
  | .text .truncated => "truncated text"
  | .invalidType found expected =>
    "invalid type: " ++ found.describe ++ ", expected " ++ expected
  | .invalidValue found expected =>
    "invalid value: " ++ found.describe ++ ", expected " ++ expected
  | .invalidLength length expected =>
    "invalid length " ++ toString length ++ ", expected " ++ expected
  | .missingField name => "missing field `" ++ name ++ "`"
  | .duplicateField name => "duplicate field `" ++ name ++ "`"
  | .unknownVariant name expected => "unknown variant `" ++ name ++ "`, expected " ++ expected

end DecodeFault

/-- Where a document comes from, which decides how a surplus element is reported: from a value,
from a text, or from a part of either that was set aside until its type was known. -/
inductive Origin where
  | value | text | setAside
  deriving DecidableEq, Repr

/-- What a reader knows about its place: the origin of the document, and for a text how many more
levels of containers are allowed. -/
structure Place where
  origin : Origin
  depth : Nat
  deriving DecidableEq, Repr

namespace Place

def ofValue : Place := ⟨.value, 0⟩

def ofText : Place := ⟨.text, Document.depthLimit⟩

def setAside (p : Place) : Place := { p with origin := .setAside }

/-- The place inside a container that stands here. -/
def enter (p : Place) : Except DecodeFault Place :=
  match p.origin, p.depth with
  | .text, 0 => .error (.text .malformed)
  | _, n => .ok { p with depth := n - 1 }

end Place

abbrev Reader (α : Type) := Place → Document → Except DecodeFault α

namespace Reader

/-- A fault of the text is a fault of its reader. -/
def liftText {α : Type} (r : Except TextFault α) : Except DecodeFault α := r.mapError .text

def found (d : Document) : Except DecodeFault Found :=
  match d.expose with
  | .null => .ok .null
  | .bool b => .ok (.bool b)
  | .num n => do
    match ← liftText n.read with
    | .whole n => return .integer n.val
    | .double d => return .double d
  | .str s => return .string (← liftText s.read)
  | .arr _ _ => .ok .sequence
  | .obj _ _ => .ok .map
  | .absent => .error (.text .truncated)
  | .broken f => .error (.text f)
  | .misplaced _ => .error (.text .malformed)
  | .value _ => .ok .null

def mismatch {α : Type} (d : Document) (expected : String) : Except DecodeFault α := do
  .error (.invalidType (← found d) expected)

def json : Reader Json := fun p d => liftText (d.toJson p.depth)

def string : Reader String := fun _ d =>
  match d.expose with
  | .str s => liftText s.read
  | _ => mismatch d "a string"

/-- A number that a conversion accepts; a whole number that it refuses has an invalid value. -/
def number {α : Type} (expected : String) (convert : Number → Option α) : Reader α := fun _ d =>
  match d.expose with
  | .num n => do
    let n ← liftText n.read
    match convert n, n with
    | some a, _ => return a
    | none, .whole w => .error (.invalidValue (.integer w.val) expected)
    | none, .double d => .error (.invalidType (.double d) expected)
  | _ => mismatch d expected

def uint64 : Reader UInt64 := number "u64" fun
  | .whole n => n.toUInt64?
  | .double _ => none

def uint32 : Reader UInt32 := number "u32" fun
  | .whole n => n.toUInt32?
  | .double _ => none

def double : Reader Double := number "f64" fun n => some n.toDouble

/-- Null stands for an absent value. -/
def optional {α : Type} (r : Reader α) : Reader (Option α) := fun p d =>
  match d.expose with
  | .null => .ok none
  | _ => (r p d).map some

def list {α : Type} (r : Reader α) : Reader (List α) := fun p d =>
  match d.expose with
  | .arr elems ending => do
    let inner ← p.enter
    let values ← elems.mapM (r inner)
    liftText (Document.finish ending values)
  | _ => mismatch d "a sequence"

/-- A field of a record that is read into a state `σ`. -/
structure RecordField (σ : Type) where
  name : String
  /-- Whether the record is incomplete without the field. -/
  required : Bool
  read : Place → Document → σ → Except DecodeFault σ

namespace RecordField

/-- A field that puts what a reader gets into the state. -/
def make {σ α : Type} (name : String) (required : Bool) (r : Reader α) (put : σ → α → σ) :
    RecordField σ :=
  ⟨name, required, fun p d s => (r p d).map (put s)⟩

/-- The members in their order; `seen` holds the names read so far. -/
def readMembers {σ : Type} (fields : List (RecordField σ)) (p : Place) :
    σ → List String → List (Token String × Document) → Except DecodeFault (σ × List String)
  | s, seen, [] => .ok (s, seen)
  | s, seen, (key, d) :: rest => do
    let name ← liftText key.read
    match fields.find? fun f => f.name = name with
    | none =>
      match d.skipFault with
      | some f => .error (.text f)
      | none => readMembers fields p s seen rest
    | some f =>
      if name ∈ seen then .error (.duplicateField name)
      else readMembers fields p (← f.read p d s) (name :: seen) rest

/-- The elements against the fields in their order, of which `index` have been passed. Where the
elements run out, the first field that the record needs is the one that is missing. The elements
left over when every field is read are returned. -/
def readElements {σ : Type} (p : Place) (expected : String) (ending : Option TextFault) :
    Nat → σ → List (RecordField σ) → List Document → Except DecodeFault (σ × List Document)
  | _, s, [], ds => .ok (s, ds)
  | index, s, f :: fields, d :: ds => do
    readElements p expected ending (index + 1) (← f.read p d s) fields ds
  | index, s, f :: fields, [] => do
    liftText (Document.finish ending ())
    if f.required then .error (.invalidLength index expected)
    else readElements p expected ending (index + 1) s fields []

end RecordField

def elementCount (n : Nat) : String :=
  toString n ++ (if n = 1 then " element" else " elements")

def surplus (p : Place) (length fields : Nat) : DecodeFault :=
  match p.origin with
  | .text => .text .malformed
  | .value => .invalidLength length "fewer elements in array"
  | .setAside => .invalidLength length (elementCount fields ++ " in sequence")

def recordOfElements {σ : Type} (title : String) (fields : List (RecordField σ)) (start : σ)
    (p : Place) (elems : List Document) (ending : Option TextFault) : Except DecodeFault σ := do
  let expected := title ++ " with " ++ elementCount fields.length
  let (s, rest) ← RecordField.readElements p expected ending 0 start fields elems
  if rest.isEmpty then liftText (Document.finish ending s)
  else .error (surplus p elems.length fields.length)

def recordOfMembers {σ : Type} (fields : List (RecordField σ)) (start : σ) (p : Place)
    (members : List (Token String × Document)) (ending : Option TextFault) :
    Except DecodeFault σ := do
  let (s, seen) ← RecordField.readMembers fields p start [] members
  liftText (Document.finish ending ())
  match fields.find? fun f => f.required && !seen.contains f.name with
  | some f => .error (.missingField f.name)
  | none => return s

/-- A record that is called `title` in messages. -/
def record {σ : Type} (title : String) (fields : List (RecordField σ)) (start : σ) : Reader σ :=
  fun p d =>
    match d.expose with
    | .arr elems ending => do recordOfElements title fields start (← p.enter) elems ending
    | .obj members ending => do recordOfMembers fields start (← p.enter) members ending
    | _ => mismatch d title

def ofJson {α : Type} (r : Reader α) (v : Json) : Except DecodeFault α := r .ofValue (.value v)

/-- Reads a text that is JSON from its first letter to its last. -/
def ofLetters {α : Type} (r : Reader α) (ls : List Letter) : Except DecodeFault α := do
  let (d, trailing) := Document.ofLetters ls
  let a ← r .ofText d
  liftText (Document.finish trailing a)

end Reader
end ChatRelay.Json
