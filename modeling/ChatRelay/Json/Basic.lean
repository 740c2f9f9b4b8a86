import ChatRelay.Json.Double

/-!
# JSON values

A number is kept as a whole number while it fits 64 bits, with or without a sign, and as a double
otherwise; the two are different values (`1` is not `1.0`). An object is the list of its members
in the order of their keys, each key once. `Canonical` states that order, which every reader and
builder of this library keeps.
-/
namespace ChatRelay

/-- A whole number that JSON keeps exactly: at least `-2 ^ 63` and below `2 ^ 64`. -/
structure WholeNumber where
  val : Int
  lower : -9223372036854775808 ≤ val
  upper : val < 18446744073709551616
  deriving DecidableEq, Repr

namespace WholeNumber

def ofInt? (n : Int) : Option WholeNumber :=
  if h : -9223372036854775808 ≤ n ∧ n < 18446744073709551616 then some ⟨n, h.1, h.2⟩ else none

def ofUInt64 (n : UInt64) : WholeNumber :=
  ⟨n.toNat, by have := n.toNat_lt; omega, by have := n.toNat_lt; omega⟩

def ofUInt32 (n : UInt32) : WholeNumber :=
  ⟨n.toNat, by have := n.toNat_lt; omega, by have := n.toNat_lt; omega⟩

/-- The same number as an unsigned word, unless it is negative. -/
def toUInt64? (n : WholeNumber) : Option UInt64 :=
  if 0 ≤ n.val then some (UInt64.ofNat n.val.toNat) else none

/-- The same number as an unsigned half word, if it fits. -/
def toUInt32? (n : WholeNumber) : Option UInt32 :=
  if 0 ≤ n.val ∧ n.val < 4294967296 then some (UInt32.ofNat n.val.toNat) else none

end WholeNumber

inductive Number where
  | whole (n : WholeNumber)
  | double (d : Double)
  deriving DecidableEq, Repr

/-- The double that stands for the number where only doubles are wanted. -/
def Number.toDouble : Number → Double
  | .whole n => Double.ofInt n.val
  | .double d => d

inductive Json where
  | null
  | bool (b : Bool)
  | num (n : Number)
  | str (s : String)
  | arr (elems : List Json)
  | obj (members : List (String × Json))
  deriving Inhabited, Repr, BEq

namespace Json

inductive Kind where
  | null | bool | number | string | array | object
  deriving DecidableEq, Repr

def Kind.name : Kind → String
  | .null => "null"
  | .bool => "bool"
  | .number => "number"
  | .string => "string"
  | .array => "array"
  | .object => "object"

def kind : Json → Kind
  | .null => .null
  | .bool _ => .bool
  | .num _ => .number
  | .str _ => .string
  | .arr _ => .array
  | .obj _ => .object

/-- Members of an object, in the order of their keys. -/
abbrev Members := List (String × Json)

namespace Members

def find? (key : String) : Members → Option Json
  | [] => none
  | (k, v) :: rest => if k = key then some v else find? key rest

/-- Adds a member at the place of its key; a member with that key gives way. -/
def insert (key : String) (value : Json) : Members → Members
  | [] => [(key, value)]
  | (k, v) :: rest =>
    if key < k then (key, value) :: (k, v) :: rest
    else if key = k then (key, value) :: rest
    else (k, v) :: insert key value rest

def erase (key : String) (ms : Members) : Members := ms.filter fun m => m.1 ≠ key

/-- The members written one after another, the last of one key counting. -/
def ofList (ms : List (String × Json)) : Members :=
  ms.foldl (fun acc m => insert m.1 m.2 acc) []

/-- Each key once, in increasing order. -/
def Sorted (ms : Members) : Prop := ms.Pairwise fun a b => a.1 < b.1

end Members

/-- The object with the given members, the last of one key counting. -/
def object (ms : List (String × Json)) : Json := .obj (Members.ofList ms)

def ofUInt64 (n : UInt64) : Json := .num (.whole (.ofUInt64 n))

def ofUInt32 (n : UInt32) : Json := .num (.whole (.ofUInt32 n))

def ofDouble (d : Double) : Json := .num (.double d)

def ofNat (n : Nat) : Json := ofUInt64 (UInt64.ofNat n)

/-- The member of an object under a key; other values have none. -/
def get? (v : Json) (key : String) : Option Json :=
  match v with
  | .obj ms => Members.find? key ms
  | _ => none

def asString? : Json → Option String
  | .str s => some s
  | _ => none

def isNull : Json → Bool
  | .null => true
  | _ => false

/-- An optional member, left out when it is absent. -/
def optional (key : String) (value : Option Json) : List (String × Json) :=
  match value with
  | some v => [(key, v)]
  | none => []

mutual
/-- Every object, at every depth, has each key once and in increasing order. -/
def Canonical : Json → Prop
  | .arr elems => CanonicalList elems
  | .obj members => Members.Sorted members ∧ CanonicalMembers members
  | _ => True

def CanonicalList : List Json → Prop
  | [] => True
  | v :: rest => Canonical v ∧ CanonicalList rest

def CanonicalMembers : List (String × Json) → Prop
  | [] => True
  | (_, v) :: rest => Canonical v ∧ CanonicalMembers rest
end

end Json
end ChatRelay
