import ChatRelay.Pattern.Usable

/-!
# Log filters

A filter is a list of directives with commas between them. A directive is a level, a target, or a
target, a span or both with a level after an equals sign; a span stands in brackets and may name a
field in braces, with a value to compare it with. Only whether a filter can be used matters here.

Blanks around a directive are passed over, but its parts are cut out of the directive with its
blanks, at the bytes where they would stand without them. So a part may be cut off wrongly, or
even cut through a character.
-/
namespace ChatRelay.LogFilter

inductive Fault where
  | malformed
  /-- A part would begin or end inside a character. -/
  | splitChar
  deriving DecidableEq, Repr

/-- The number of digits only, with a plus sign before them or not. -/
def number? (cs : List Char) : Option Nat :=
  let digits := match cs with
    | '+' :: rest => rest
    | cs => cs
  if digits.isEmpty || !digits.all Char.isDigit then none
  else some (digits.foldl (fun n c => n * 10 + (c.toNat - '0'.toNat)) 0)

/-- A level by its name, without regard to case, or by its number; no text means every level. -/
def isLevel (cs : List Char) : Bool :=
  match number? cs with
  | some n => n ≤ 5
  | none =>
    ["", "error", "warn", "info", "debug", "trace", "off"].contains
      (Text.asciiLower (String.ofList cs))

/-- At least one digit, with a sign before them or not. -/
def isExponent (cs : List Char) : Bool :=
  let digits := match cs with
    | '+' :: rest => rest
    | '-' :: rest => rest
    | cs => cs
  !digits.isEmpty && digits.all Char.isDigit

/-- A decimal number without a sign: digits with a point among or around them or none, and an
exponent or none. -/
def isDecimal (cs : List Char) : Bool :=
  let mantissa := cs.takeWhile fun c => c ≠ 'e' && c ≠ 'E'
  let digits := mantissa.filter fun c => c ≠ '.'
  mantissa.count '.' ≤ 1 && !digits.isEmpty && digits.all Char.isDigit
    && match cs.dropWhile fun c => c ≠ 'e' && c ≠ 'E' with
      | [] => true
      | _ :: exponent => isExponent exponent

/-- A decimal number, or a word for an infinite one or for none. -/
def isUnsignedNumber (cs : List Char) : Bool :=
  isDecimal cs || ["inf", "infinity", "nan"].contains (Text.asciiLower (String.ofList cs))

def splitAt (separator : Char) : List Char → List (List Char)
  | [] => [[]]
  | c :: rest =>
    if c = separator then [] :: splitAt separator rest
    else
      match splitAt separator rest with
      | part :: parts => (c :: part) :: parts
      | [] => [[c]]

/-- A value is a number or a pattern. Every number but one with a plus sign is a pattern too. -/
def isValue (cs : List Char) : Bool :=
  Pattern.isUsable cs ||
    match cs with
    | '+' :: rest => isUnsignedNumber rest
    | _ => false

/-- A field is a name, and a value after an equals sign or none; what follows a second equals sign
does not count. -/
def isField (cs : List Char) : Bool :=
  !cs.isEmpty &&
    match splitAt '=' cs with
    | _ :: value :: _ => isValue value
    | _ => true

/-- How far a directive has been read; parts begin at so many bytes. -/
inductive State where
  | start
  /-- In a level or a target. -/
  | word
  /-- In the name of a span. -/
  | span (start : Nat)
  | field (start : Nat)
  /-- After the field of a span. -/
  | fields
  /-- After a span. -/
  | target
  /-- In the level after an equals sign. -/
  | level (start : Nat)
  deriving DecidableEq, Repr

def dropBytes : Nat → List Char → Except Fault (List Char)
  | 0, cs => .ok cs
  | _ + 1, [] => .error .splitChar
  | n + 1, c :: rest =>
    if c.utf8Size ≤ n + 1 then dropBytes (n + 1 - c.utf8Size) rest else .error .splitChar
termination_by _ cs => cs.length

def takeBytes : Nat → List Char → Except Fault (List Char)
  | 0, _ => .ok []
  | _ + 1, [] => .error .splitChar
  | n + 1, c :: rest =>
    if c.utf8Size ≤ n + 1 then (takeBytes (n + 1 - c.utf8Size) rest).map (c :: ·)
    else .error .splitChar
termination_by _ cs => cs.length

def cut (start stop : Nat) (cs : List Char) : Except Fault (List Char) := do
  takeBytes (stop - start) (← dropBytes start cs)

/-- Whether a directive may begin with a character. -/
def mayBegin (c : Char) : Bool := ['-', ':', '_'].contains c || Text.isAlphanumeric c

/-- The state after the character at byte `i`, if the directive `whole` may go on with it. -/
def next (whole : List Char) (i : Nat) : State → Char → Except Fault State
  | .start, c =>
    if c = '[' then .ok (.span (i + 1)) else if mayBegin c then .ok .word else .error .malformed
  | .word, c =>
    if c = '=' then (cut 0 i whole).map fun _ => .level (i + 1)
    else if c = '[' then (cut 0 i whole).map fun _ => .span (i + 1)
    else .ok .word
  | .span start, c =>
    if c = ']' then (cut start i whole).map fun _ => .target
    else if c = '{' then (cut start i whole).map fun _ => .field (i + 1)
    else .ok (.span start)
  | .field start, c =>
    if c = '}' then do
      if isField (← cut start i whole) then .ok .fields else .error .malformed
    else .ok (.field start)
  | .fields, c => if c = ']' then .ok .target else .error .malformed
  | .target, c => if c = '=' then .ok (.level (i + 1)) else .error .malformed
  | .level start, _ => .ok (.level start)

/-- The state after all characters, the first of which stands at byte `i`. -/
def scan (whole : List Char) : Nat → State → List Char → Except Fault State
  | _, s, [] => .ok s
  | i, s, c :: rest => do scan whole (i + c.utf8Size) (← next whole i s c) rest

def checkDirective (cs : List Char) : Except Fault Unit := do
  match ← scan cs 0 .start (Text.trimChars cs) with
  | .word => .ok ()
  | .target => .ok ()
  | .level start => if isLevel (← dropBytes start cs) then .ok () else .error .malformed
  | _ => .error .malformed

/-- What keeps a filter from being used; empty parts between commas do not count. -/
def check (s : String) : Except Fault Unit :=
  ((splitAt ',' s.toList).filter fun part => !part.isEmpty).forM checkDirective

end ChatRelay.LogFilter
