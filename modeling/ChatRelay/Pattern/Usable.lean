import ChatRelay.Pattern.Reader

/-!
# Patterns that can be compiled

A pattern is compiled to an automaton that reads UTF-8 and knows no tables of Unicode properties.
So in Unicode mode it has neither the lettered classes nor the edges of words, nor the two cases of
a character; and in byte mode it may not match a byte that is not ASCII by itself.
-/
namespace ChatRelay.Pattern

/-- The switches that decide what can be compiled. -/
structure Modes where
  ignoreCase : Bool
  unicode : Bool
  deriving DecidableEq, Repr

namespace Modes

def standard : Modes := ⟨false, true⟩

def set (m : Modes) (s : Settings) : Modes :=
  ⟨s.apply .ignoreCase m.ignoreCase, s.apply .unicode m.unicode⟩

def allowsInSet (m : Modes) (l : Literal) : Bool :=
  if m.unicode then !m.ignoreCase else l.char.toNat < 0x80

/-- Whether a character can stand alone: only a byte that is not ASCII cannot in byte mode. -/
def allows (m : Modes) (l : Literal) : Bool :=
  if m.unicode then !m.ignoreCase else !l.byByte || l.char.toNat < 0x80

end Modes

namespace CharSet

mutual
/-- Whether a set can be compiled. -/
def isUsable (m : Modes) : CharSet → Bool
  | .literal l => m.allowsInSet l
  | .range first last => m.allowsInSet first && m.allowsInSet last
  | .named negated => if m.unicode then !m.ignoreCase else !negated
  | .lettered negated => !m.unicode && !negated
  | .bracketed negated inner => isUsable m inner && (m.unicode || !negated)
  | .union parts => areUsable m parts
  | .combined left right => isUsable m left && isUsable m right

def areUsable (m : Modes) : List CharSet → Bool
  | [] => true
  | part :: parts => isUsable m part && areUsable m parts
end

end CharSet

mutual
/-- The modes after a pattern, if it can be compiled. Settings last until the end of their group,
from one branch into the next. -/
def modesAfter (m : Modes) : Pattern → Option Modes
  | .literal l => if m.allows l then some m else none
  | .anyChar => if m.unicode then some m else none
  | .edge => some m
  | .wordEdge => if m.unicode then none else some m
  | .set s => if s.isUsable m then some m else none
  | .settings s => some (m.set s)
  | .group s inner => (modesAfter (m.set s) inner).map fun _ => m
  | .repeated inner => modesAfter m inner
  | .sequence parts => modesAfterAll m parts
  | .choice branches => modesAfterAll m branches

def modesAfterAll (m : Modes) : List Pattern → Option Modes
  | [] => some m
  | part :: parts => (modesAfter m part).bind fun m => modesAfterAll m parts
end

def depthLimit : Nat := 250

/-- Whether the characters are a pattern that can be compiled. -/
def isUsable (cs : List Char) : Bool :=
  match read? cs with
  | some p => p.depth ≤ depthLimit && (modesAfter .standard p).isSome
  | none => false

end ChatRelay.Pattern
