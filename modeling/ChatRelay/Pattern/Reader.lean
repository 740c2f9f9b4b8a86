import ChatRelay.Pattern.Basic
import ChatRelay.Text.Alphanumeric
import ChatRelay.Text.Blank
import ChatRelay.Text.Digit

/-!
# Reading patterns

Each function reads one construct at the front of the characters and returns it with what follows,
or nothing if it is not well formed. In verbose patterns blanks and comments between the constructs
do not count.

A counted repetition is never well formed here: a filter ends a field at the first closing brace.
-/
namespace ChatRelay.Pattern

/-- What follows blanks and comments, which reach from a hash sign to the end of the line. -/
def skipNotes (inComment : Bool) : List Char → List Char
  | [] => []
  | c :: rest =>
    if inComment then skipNotes (c ≠ '\n') rest
    else if c = '#' then skipNotes true rest
    else if Text.isBlank c then skipNotes false rest
    else c :: rest

def skipBlanks (verbose : Bool) (cs : List Char) : List Char :=
  if verbose then skipNotes false cs else cs

/-- The character after a hyphen, which tells whether the hyphen makes a range. Blanks are passed
over in verbose patterns, and the sign of a comment is. -/
def peekRange (verbose : Bool) (cs : List Char) : Option Char :=
  if verbose then
    match cs.dropWhile Text.isBlank with
    | '#' :: rest => (rest.dropWhile Text.isBlank).head?
    | rest => rest.head?
  else cs.head?

/-- The number that so many hexadecimal digits stand for. -/
def hexNumber (verbose : Bool) : Nat → Nat → List Char → Option (Nat × List Char)
  | 0, n, rest => some (n, rest)
  | count + 1, n, cs =>
    match skipBlanks verbose cs with
    | c :: rest => (Text.digit? 16 c).bind fun d => hexNumber verbose count (n * 16 + d) rest
    | [] => none

def numbered (verbose byByte : Bool) (count : Nat) (cs : List Char) :
    Option (Pattern × List Char) := do
  let (n, rest) ← hexNumber verbose count 0 cs
  return (.literal ⟨← Text.charOf? n, byByte⟩, rest)

def control? : Char → Option Char
  | 'a' => some (Char.ofNat 7)
  | 'f' => some (Char.ofNat 12)
  | 't' => some '\t'
  | 'n' => some '\n'
  | 'r' => some '\r'
  | 'v' => some (Char.ofNat 11)
  | _ => none

/-- What a backslash and a character stand for. Classes by their Unicode property are well formed,
but they could not be compiled. -/
def escaped? (c : Char) : Option Pattern :=
  if ['d', 's', 'w'].contains c then some (.set (.lettered false))
  else if ['D', 'S', 'W'].contains c then some (.set (.lettered true))
  else if ['A', 'z'].contains c then some .edge
  else if ['b', 'B', '<', '>'].contains c then some .wordEdge
  else if c.toNat < 0x80 && !c.isAlphanum then some (.literal ⟨c, false⟩)
  else (control? c).map fun c => .literal ⟨c, false⟩

def escape (verbose : Bool) : List Char → Option (Pattern × List Char)
  | [] => none
  | 'x' :: rest => numbered verbose true 2 rest
  | 'u' :: rest => numbered verbose false 4 rest
  | 'U' :: rest => numbered verbose false 8 rest
  | c :: rest => (escaped? c).map fun p => (p, rest)

/-- The names of the classes of ASCII characters. -/
def classNames : List String :=
  ["alnum", "alpha", "ascii", "blank", "cntrl", "digit", "graph", "lower", "print", "punct",
    "space", "upper", "word", "xdigit"]

/-- The name of a class, with the colon and the bracket that close it. -/
def className (negated : Bool) (cs : List Char) : Option (CharSet × List Char) :=
  let name := String.ofList (cs.takeWhile fun c => c ≠ ':')
  match cs.dropWhile fun c => c ≠ ':' with
  | ':' :: ']' :: rest => if classNames.contains name then some (.named negated, rest) else none
  | _ => none

/-- A class by its name, after the opening bracket. -/
def namedClass : List Char → Option (CharSet × List Char)
  | ':' :: '^' :: rest => className true rest
  | ':' :: rest => className false rest
  | _ => none

def setItem (verbose : Bool) : List Char → Option (CharSet × List Char)
  | [] => none
  | '\\' :: rest =>
    match escape verbose rest with
    | some (.literal l, rest) => some (.literal l, rest)
    | some (.set s, rest) => some (s, rest)
    | _ => none
  | c :: rest => some (.literal ⟨c, false⟩, rest)

/-- A character or class of a set, or a range of characters. -/
def setRange (verbose : Bool) (cs : List Char) : Option (CharSet × List Char) := do
  let (first, rest) ← setItem verbose cs
  match skipBlanks verbose rest with
  | '-' :: more =>
    if [some ']', some '-'].contains (peekRange verbose more) then return (first, '-' :: more)
    else
      match first, ← setItem verbose (skipBlanks verbose more) with
      | .literal a, (.literal b, rest) =>
        if a.char ≤ b.char then return (.range a b, rest) else none
      | _, _ => none
  | rest => return (first, rest)

/-- The set with the operand to the left of an operator, if there is one. -/
def combine (left : Option CharSet) (parts : List CharSet) : CharSet :=
  match left with
  | none => .unionOf parts
  | some left => .combined left (.unionOf parts)

/-- Whether a set is negated, after its opening bracket. -/
def negation (verbose : Bool) (cs : List Char) : Bool × List Char :=
  match skipBlanks verbose cs with
  | '^' :: rest => (true, rest)
  | rest => (false, rest)

/-- The inside of a set up to its closing bracket. While `atStart` holds, only hyphens have been
read, and they stand for themselves, as a closing bracket does that comes first. Each step takes at
least one character, so the number of characters is fuel enough. -/
def setInside (verbose : Bool) :
    Nat → Bool → Option CharSet → List CharSet → List Char → Option (CharSet × List Char)
  | 0, _, _, _, _ => none
  | fuel + 1, atStart, left, parts, cs =>
    match skipBlanks verbose cs with
    | [] => none
    | ']' :: rest =>
      if atStart && parts.isEmpty then
        setInside verbose fuel false left [.literal ⟨']', false⟩] rest
      else some (combine left parts, rest)
    | '[' :: rest =>
      match namedClass rest with
      | some (s, rest) => setInside verbose fuel false left (parts ++ [s]) rest
      | none =>
        let (negated, rest) := negation verbose rest
        match setInside verbose fuel true none [] rest with
        | some (s, rest) =>
          setInside verbose fuel false left (parts ++ [.bracketed negated s]) rest
        | none => none
    | c :: rest =>
      if atStart && c = '-' then
        setInside verbose fuel true left (parts ++ [.literal ⟨'-', false⟩]) rest
      else if ['&', '-', '~'].contains c && rest.head? = some c then
        setInside verbose fuel false (some (combine left parts)) [] rest.tail
      else
        match setRange verbose (c :: rest) with
        | some (s, rest) => setInside verbose fuel false left (parts ++ [s]) rest
        | none => none

def bracketSet (verbose : Bool) (cs : List Char) : Option (CharSet × List Char) := do
  let (negated, rest) := negation verbose cs
  let (s, rest) ← setInside verbose (rest.length + 1) true none [] rest
  return (.bracketed negated s, rest)

inductive Opening where
  /-- Settings and nothing else. -/
  | settings (s : Settings)
  /-- A group, which may have a name. -/
  | group (s : Settings) (name : Option (List Char))

def closesSettings (c : Char) : Bool := c = ':' || c = ')'

/-- Settings up to the colon or parenthesis after them. A hyphen turns the switches after it off;
it may come once, and not last. -/
def readSettings (on : Bool) (s : Settings) : List Char → Option (Settings × List Char)
  | [] => none
  | c :: rest =>
    if closesSettings c then some (s, c :: rest)
    else if c = '-' then
      if on && !rest.head?.any closesSettings then readSettings false s rest else none
    else
      match Switch.ofChar? c with
      | none => none
      | some switch =>
        if (s.lookup switch).isSome then none else readSettings on (s ++ [(switch, on)]) rest

/-- Whether characters are the name of a group. -/
def isGroupName : List Char → Bool
  | [] => false
  | c :: rest =>
    (c = '_' || Text.isAlphabetic c)
      && rest.all fun c => ['_', '.', '[', ']'].contains c || Text.isAlphanumeric c

/-- The group that has a name, after the sign that opens the name. -/
def namedGroup (cs : List Char) : Option (Opening × List Char) :=
  let name := cs.takeWhile fun c => c ≠ '>'
  match cs.dropWhile fun c => c ≠ '>' with
  | _ :: rest => if isGroupName name then some (.group [] (some name), rest) else none
  | [] => none

def opening (verbose : Bool) (cs : List Char) : Option (Opening × List Char) :=
  match skipBlanks verbose cs with
  | '?' :: 'P' :: '<' :: rest => namedGroup rest
  | '?' :: '<' :: rest => namedGroup rest
  | '?' :: rest =>
    match readSettings true [] rest with
    | some (s, ':' :: rest) => some (.group s none, rest)
    | some (s, _ :: rest) => if s.isEmpty then none else some (.settings s, rest)
    | _ => none
  | rest => some (.group [] none, rest)

def addName (names : List (List Char)) : Option (List Char) → Option (List (List Char))
  | none => some names
  | some name => if names.contains name then none else some (name :: names)

/-- The last part made repeatable; settings cannot be. -/
def repeatLast (parts : List Pattern) : Option (List Pattern) :=
  match parts.getLast? with
  | none => none
  | some (.settings _) => none
  | some p => some (parts.dropLast ++ [.repeated p])

/-- A question mark right after a repetition belongs to it. -/
def skipLazy : List Char → List Char
  | '?' :: rest => rest
  | rest => rest

def single? (c : Char) : Option Pattern :=
  if c = '.' then some .anyChar
  else if c = '^' || c = '$' then some .edge
  else if c = '{' then none
  else some (.literal ⟨c, false⟩)

/-- The names of the groups that have been read, and the branches and the parts of the last branch
of the group that is being read. -/
structure Draft where
  names : List (List Char)
  branches : List Pattern
  parts : List Pattern

namespace Draft

def start (names : List (List Char)) : Draft := ⟨names, [], []⟩

def add (d : Draft) (p : Pattern) : Draft := { d with parts := d.parts ++ [p] }

def branch (d : Draft) : Draft :=
  { d with branches := d.branches ++ [.sequenceOf d.parts], parts := [] }

def pattern (d : Draft) : Pattern := .choiceOf d.branch.branches

end Draft

/-- The inside of a group up to its closing parenthesis, or a whole pattern up to the end. Each step
takes at least one character, so the number of characters is fuel enough. -/
def inside : Nat → Bool → Draft → List Char → Option (Draft × List Char)
  | 0, _, _, _ => none
  | fuel + 1, verbose, d, cs =>
    match skipBlanks verbose cs with
    | [] => some (d, [])
    | ')' :: rest => some (d, ')' :: rest)
    | '|' :: rest => inside fuel verbose d.branch rest
    | '(' :: rest =>
      match opening verbose rest with
      | none => none
      | some (.settings s, rest) =>
        inside fuel (s.apply .verbose verbose) (d.add (.settings s)) rest
      | some (.group s name, rest) =>
        match addName d.names name with
        | none => none
        | some names =>
          match inside fuel (s.apply .verbose verbose) (.start names) rest with
          | some (inner, ')' :: rest) =>
            inside fuel verbose ({ d with names := inner.names }.add (.group s inner.pattern)) rest
          | _ => none
    | '[' :: rest =>
      match bracketSet verbose rest with
      | none => none
      | some (s, rest) => inside fuel verbose (d.add (.set s)) rest
    | '\\' :: rest =>
      match escape verbose rest with
      | none => none
      | some (p, rest) => inside fuel verbose (d.add p) rest
    | c :: rest =>
      if ['?', '*', '+'].contains c then
        match repeatLast d.parts with
        | none => none
        | some parts => inside fuel verbose { d with parts } (skipLazy rest)
      else
        match single? c with
        | none => none
        | some p => inside fuel verbose (d.add p) rest

/-- The pattern that the characters are, if they are well formed. -/
def read? (cs : List Char) : Option Pattern :=
  match inside (cs.length + 1) false (.start []) cs with
  | some (d, []) => some d.pattern
  | _ => none

end ChatRelay.Pattern
