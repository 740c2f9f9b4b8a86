import ChatRelay.Text.Digit

/-!
# Texts, keys and words of TOML

Each function reads one lexeme at the front of the characters and returns it with what follows, or
nothing if there is none that TOML allows.
-/
namespace ChatRelay.Toml

def isSpace (c : Char) : Bool := c = ' ' || c = '\t'

def skipSpace (cs : List Char) : List Char := cs.dropWhile isSpace

/-- Control characters may not stand in a text or a comment; the tab may. -/
def isForbidden (c : Char) : Bool := (c.toNat < 0x20 && c ≠ '\t') || c.toNat = 0x7F

def lineBreak? : List Char → Option (List Char)
  | '\n' :: rest => some rest
  | '\r' :: '\n' :: rest => some rest
  | _ => none

/-- A comment, up to the line break or the end. -/
def skipComment : List Char → Option (List Char)
  | [] => some []
  | '\n' :: rest => some ('\n' :: rest)
  | '\r' :: '\n' :: rest => some ('\r' :: '\n' :: rest)
  | c :: rest => if isForbidden c then none else skipComment rest

def hexDigits : Nat → Nat → List Char → Option (Nat × List Char)
  | 0, n, rest => some (n, rest)
  | _ + 1, _, [] => none
  | count + 1, n, c :: rest => do
    let d ← Text.digit? 16 c
    hexDigits count (n * 16 + d) rest

/-- A character by a number of so many hexadecimal digits. -/
def numberedChar (count : Nat) (cs : List Char) : Option (Char × List Char) := do
  let (n, rest) ← hexDigits count 0 cs
  return (← Text.charOf? n, rest)

/-- The character that an escape stands for, after its backslash. -/
def escape : List Char → Option (Char × List Char)
  | 'b' :: rest => some (Char.ofNat 8, rest)
  | 't' :: rest => some ('\t', rest)
  | 'n' :: rest => some ('\n', rest)
  | 'f' :: rest => some (Char.ofNat 12, rest)
  | 'r' :: rest => some ('\r', rest)
  | 'e' :: rest => some (Char.ofNat 27, rest)
  | '"' :: rest => some ('"', rest)
  | '\\' :: rest => some ('\\', rest)
  | 'x' :: rest => numberedChar 2 rest
  | 'u' :: rest => numberedChar 4 rest
  | 'U' :: rest => numberedChar 8 rest
  | _ => none

/-- A text in double quotes, after the opening one. Each step takes at least one character, so the
number of characters is fuel enough; the same holds of the other lexemes below. -/
def basicText : Nat → List Char → List Char → Option (String × List Char)
  | 0, _, _ => none
  | _ + 1, _, [] => none
  | fuel + 1, acc, c :: rest =>
    if c = '"' then some (String.ofList acc.reverse, rest)
    else if c = '\\' then do
      let (e, rest) ← escape rest
      basicText fuel (e :: acc) rest
    else if isForbidden c then none
    else basicText fuel (c :: acc) rest

/-- A text in single quotes, after the opening one; it has no escapes. -/
def literalText : List Char → List Char → Option (String × List Char)
  | _, [] => none
  | acc, c :: rest =>
    if c = '\'' then some (String.ofList acc.reverse, rest)
    else if isForbidden c then none
    else literalText (c :: acc) rest

/-- The blanks and line breaks that a backslash at the end of a line takes away. -/
def skipFolded : List Char → List Char
  | '\r' :: '\n' :: rest => skipFolded rest
  | c :: rest => if c = '\n' || isSpace c then skipFolded rest else c :: rest
  | [] => []

/-- What follows the blanks and the line break after a backslash at the end of a line. -/
def foldedLine? (cs : List Char) : Option (List Char) := (lineBreak? (skipSpace cs)).map skipFolded

/-- Three quotes close a text of several lines; up to two more before them belong to the text. -/
def closing? (q : Char) : List Char → Option (Nat × List Char)
  | a :: b :: c :: d :: e :: rest =>
    if a = q && b = q && c = q then
      if d = q then if e = q then some (2, rest) else some (1, e :: rest)
      else some (0, d :: e :: rest)
    else none
  | [a, b, c, d] =>
    if a = q && b = q && c = q then if d = q then some (1, []) else some (0, [d]) else none
  | [a, b, c] => if a = q && b = q && c = q then some (0, []) else none
  | _ => none

/-- The text of several lines so far, with the quotes that belong to it. -/
def closeText (q : Char) (acc : List Char) (extra : Nat) : String :=
  String.ofList (acc.reverse ++ List.replicate extra q)

/-- A text of several lines, after its opening quotes and the line break that may follow them. -/
def longText (q : Char) : Nat → List Char → List Char → Option (String × List Char)
  | 0, _, _ => none
  | _ + 1, _, [] => none
  | fuel + 1, acc, c :: rest =>
    match closing? q (c :: rest) with
    | some (extra, rest) => some (closeText q acc extra, rest)
    | none =>
      if q = '"' && c = '\\' then
        match foldedLine? rest with
        | some rest => longText q fuel acc rest
        | none => do
          let (e, rest) ← escape rest
          longText q fuel (e :: acc) rest
      else
        match c, rest with
        | '\r', '\n' :: rest => longText q fuel ('\n' :: '\r' :: acc) rest
        | '\n', rest => longText q fuel ('\n' :: acc) rest
        | c, rest => if isForbidden c then none else longText q fuel (c :: acc) rest

/-- A text of any of the four forms. -/
def text? (cs : List Char) : Option (String × List Char) :=
  match cs with
  | '"' :: '"' :: '"' :: rest => longText '"' (rest.length + 1) [] ((lineBreak? rest).getD rest)
  | '\'' :: '\'' :: '\'' :: rest =>
    longText '\'' (rest.length + 1) [] ((lineBreak? rest).getD rest)
  | '"' :: rest => basicText (rest.length + 1) [] rest
  | '\'' :: rest => literalText [] rest
  | _ => none

def isBare (c : Char) : Bool := c.isAlphanum || c = '_' || c = '-'

/-- One key: bare, or a text on one line. -/
def simpleKey (cs : List Char) : Option (String × List Char) :=
  match cs with
  | '"' :: rest => basicText (rest.length + 1) [] rest
  | '\'' :: rest => literalText [] rest
  | _ =>
    match cs.takeWhile isBare with
    | [] => none
    | name => some (String.ofList name, cs.dropWhile isBare)

/-- Keys with points between them, at least one. -/
def keyPath : Nat → List Char → Option (List String × List Char)
  | 0, _ => none
  | fuel + 1, cs => do
    let (key, rest) ← simpleKey (skipSpace cs)
    match skipSpace rest with
    | '.' :: rest => do
      let (keys, rest) ← keyPath fuel rest
      return (key :: keys, rest)
    | rest => return ([key], rest)

/-- Whether a character ends a value that is not quoted. -/
def endsWord (c : Char) : Bool :=
  isSpace c || ['\n', '\r', '#', '=', ',', '[', ']', '{', '}'].contains c

def word (cs : List Char) : List Char × List Char :=
  (cs.takeWhile fun c => !endsWord c, cs.dropWhile fun c => !endsWord c)

end ChatRelay.Toml
