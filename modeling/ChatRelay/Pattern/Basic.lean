/-!
# Patterns

The regular expressions that a log filter may compare a field with. What they match does not matter
here, only whether they are well formed, whether they can be compiled, and how deeply they are
nested; so of each construct only what bears on these is kept.
-/
namespace ChatRelay.Pattern

/-- A switch that a pattern sets for what follows. -/
inductive Switch where
  | ignoreCase | manyLines | dotMatchesBreak | swapGreed | unicode | carriageReturns | verbose
  deriving DecidableEq, Repr

def Switch.ofChar? : Char → Option Switch
  | 'i' => some .ignoreCase
  | 'm' => some .manyLines
  | 's' => some .dotMatchesBreak
  | 'U' => some .swapGreed
  | 'u' => some .unicode
  | 'R' => some .carriageReturns
  | 'x' => some .verbose
  | _ => none

/-- The switches that are turned on or off at one place. -/
abbrev Settings := List (Switch × Bool)

/-- The position of a switch after the settings, given the position before them. -/
def Settings.apply (s : Settings) (switch : Switch) (before : Bool) : Bool :=
  (s.lookup switch).getD before

/-- A character that stands for itself. -/
structure Literal where
  char : Char
  /-- Whether it is written as the number of a byte. -/
  byByte : Bool
  deriving DecidableEq, Repr

inductive CharSet where
  | literal (l : Literal)
  | range (first last : Literal)
  /-- A class of ASCII characters by its name. -/
  | named (negated : Bool)
  /-- The digits, the blanks or the characters of words, by a letter. -/
  | lettered (negated : Bool)
  | bracketed (negated : Bool) (inner : CharSet)
  | union (parts : List CharSet)
  /-- The intersection or the difference of two sets. -/
  | combined (left right : CharSet)
  deriving Repr

namespace CharSet

def unionOf : List CharSet → CharSet
  | [s] => s
  | parts => .union parts

mutual
/-- How many constructs stand around the innermost one. -/
def depth : CharSet → Nat
  | .literal _ => 0
  | .range _ _ => 0
  | .named _ => 0
  | .lettered _ => 0
  | .bracketed _ inner => inner.depth + 1
  | .union [] => 0
  | .union (part :: parts) => max part.depth (partsDepth parts) + 1
  | .combined left right => max left.depth right.depth + 1

def partsDepth : List CharSet → Nat
  | [] => 0
  | part :: parts => max part.depth (partsDepth parts)
end

end CharSet
end Pattern

inductive Pattern where
  | literal (l : Pattern.Literal)
  | anyChar
  /-- An end of a line or of the whole text. -/
  | edge
  /-- A place where a word begins or ends, or one where none does. -/
  | wordEdge
  | set (s : Pattern.CharSet)
  /-- Switches set until the end of the group. -/
  | settings (s : Pattern.Settings)
  /-- A group, in which switches may be set. -/
  | group (s : Pattern.Settings) (inner : Pattern)
  | repeated (inner : Pattern)
  | sequence (parts : List Pattern)
  | choice (branches : List Pattern)
  deriving Repr

namespace Pattern

def sequenceOf : List Pattern → Pattern
  | [p] => p
  | parts => .sequence parts

def choiceOf : List Pattern → Pattern
  | [p] => p
  | branches => .choice branches

mutual
/-- How many constructs stand around the innermost one. -/
def depth : Pattern → Nat
  | .literal _ => 0
  | .anyChar => 0
  | .edge => 0
  | .wordEdge => 0
  | .set s => s.depth
  | .settings _ => 0
  | .group _ inner => inner.depth + 1
  | .repeated inner => inner.depth + 1
  | .sequence [] => 0
  | .sequence (part :: parts) => max part.depth (partsDepth parts) + 1
  | .choice branches => partsDepth branches + 1

def partsDepth : List Pattern → Nat
  | [] => 0
  | part :: parts => max part.depth (partsDepth parts)
end

end ChatRelay.Pattern
