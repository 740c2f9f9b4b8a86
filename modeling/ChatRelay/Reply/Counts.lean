import ChatRelay.Event

/-!
# Token counts of a reply

Where a vendor reports each count, and how a reported number becomes a count: a whole number is
taken as it is, a double loses its fraction and is cut at the largest count, and everything else,
negative numbers included, is not reported. The total is never taken from the vendor.
-/
namespace ChatRelay

/-- Keys that lead from the usage object to a count. -/
abbrev CountPath := List String

/-- Where a vendor reports each count. -/
structure CountPaths where
  prompt : CountPath
  completion : CountPath
  cacheCreation : Option CountPath
  cacheRead : Option CountPath
  deriving DecidableEq, Repr

namespace CountPaths

/-- The value at the end of a path. -/
def valueAt (root : Json) : CountPath → Option Json
  | [] => some root
  | key :: rest => (root.get? key).bind fun v => valueAt v rest

/-- A double that is not negative as a count. -/
def countOfDouble (d : Double) : UInt64 :=
  UInt64.ofNat (min d.truncate Usage.largestCount.toNat)

/-- The count that a value stands for. -/
def countOf? : Json → Option UInt64
  | .num (.whole n) => n.toUInt64?
  | .num (.double d) => if d.isNonnegative then some (countOfDouble d) else none
  | _ => none

def read? (root : Json) (path : CountPath) : Option UInt64 := (valueAt root path).bind countOf?

def readEvents (root : Json) (path : CountPath) : List Event :=
  match valueAt root path with
  | some v => if v.isNull || (countOf? v).isSome then [] else [.malformedCount path]
  | none => []

def usage (paths : CountPaths) : Option Json → Usage
  | none => .zero
  | some root =>
    { Usage.ofCounts ((read? root paths.prompt).getD 0) ((read? root paths.completion).getD 0) with
      cacheCreation := paths.cacheCreation.bind (read? root)
      cacheRead := paths.cacheRead.bind (read? root) }

def events (paths : CountPaths) : Option Json → List Event
  | none => []
  | some root =>
    readEvents root paths.prompt ++ readEvents root paths.completion
      ++ (paths.cacheCreation.map (readEvents root)).getD []
      ++ (paths.cacheRead.map (readEvents root)).getD []

end CountPaths
end ChatRelay
