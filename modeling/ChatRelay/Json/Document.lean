import ChatRelay.Json.Numeral
import ChatRelay.Text.Digit
import ChatRelay.Text.Letter

/-!
# JSON documents: what a text says up to its first fault

A document keeps the members of an object in the order of the text, repeated keys included, and
keeps faults at the place where they stand. So a reader that wants a certain shape meets the faults
and the surprises of a text in the order of the text. Some faults matter only to a reader that
wants the value: a number out of range, half of a surrogate pair, nesting past the limit; skipping
a value passes over these.

`Document.value` embeds a finished value, whose parts are again such documents.
-/
namespace ChatRelay.Json

/-- Why a text is not JSON: it goes wrong, or it ends too early. -/
inductive TextFault where
  | malformed
  | truncated
  deriving DecidableEq, Repr

/-- A string or a number of a text: what a reader gets from it, and the fault, if any, that even a
reader who skips it meets. -/
structure Token (α : Type) where
  read : Except TextFault α
  skipped : Option TextFault

namespace Token

def ok {α : Type} (a : α) : Token α := ⟨.ok a, none⟩

/-- A fault that stops everyone. -/
def fault {α : Type} (f : TextFault) : Token α := ⟨.error f, some f⟩

end Token

/-- A JSON text as far as it can be followed. -/
inductive Document where
  | null
  | bool (b : Bool)
  | num (n : Token Number)
  | str (s : Token String)
  /-- Elements, and the fault met where the next one or the end should be. -/
  | arr (elems : List Document) (ending : Option TextFault)
  /-- Members, and the fault met where the next one or the end should be. -/
  | obj (members : List (Token String × Document)) (ending : Option TextFault)
  /-- Nothing: the text ends where it should begin. -/
  | absent
  /-- Something that goes wrong or is cut off, but begins. -/
  | broken (f : TextFault)
  /-- What stands where a key should be. -/
  | misplaced (d : Document)
  /-- A value that is no longer text. -/
  | value (v : Json)

namespace Document

def digit? : Letter → Option Nat
  | .char c => Text.digit? 10 c
  | .stray _ => none

def hexDigit? : Letter → Option Nat
  | .char c => Text.digit? 16 c
  | .stray _ => none

/-- The digits at the front, and what follows them. -/
def takeDigits : List Letter → List Nat × List Letter
  | [] => ([], [])
  | l :: rest =>
    match digit? l with
    | some d =>
      let (ds, rest') := takeDigits rest
      (d :: ds, rest')
    | none => ([], l :: rest)

def someDigits (ls : List Letter) : Except TextFault (List Nat × List Letter) :=
  match takeDigits ls with
  | ([], []) => .error .truncated
  | ([], _ :: _) => .error .malformed
  | (ds, rest) => .ok (ds, rest)

/-- The whole part: one zero, or digits of which the first is not zero. -/
def wholePart (ls : List Letter) : Except TextFault (List Nat × List Letter) :=
  match someDigits ls with
  | .ok (0 :: _ :: _, _) => .error .malformed
  | r => r

def fractionPart : List Letter → Except TextFault (Option (List Nat) × List Letter)
  | .char '.' :: rest => (someDigits rest).map fun (ds, rest) => (some ds, rest)
  | ls => .ok (none, ls)

def exponentPart (ls : List Letter) :
    Except TextFault (Option (Bool × List Nat) × List Letter) :=
  let signed : List Letter → Except TextFault (Option (Bool × List Nat) × List Letter)
    | .char '-' :: rest => (someDigits rest).map fun (ds, rest) => (some (true, ds), rest)
    | .char '+' :: rest => (someDigits rest).map fun (ds, rest) => (some (false, ds), rest)
    | rest => (someDigits rest).map fun (ds, rest) => (some (false, ds), rest)
  match ls with
  | .char 'e' :: rest => signed rest
  | .char 'E' :: rest => signed rest
  | _ => .ok (none, ls)

def unsignedNumeral (negative : Bool) (ls : List Letter) :
    Except TextFault (Numeral × List Letter) := do
  let (whole, ls) ← wholePart ls
  let (fraction, ls) ← fractionPart ls
  let (exponent, ls) ← exponentPart ls
  return ({ negative, whole, fraction, exponent }, ls)

/-- The number at the front and what follows it. Whoever skips a number that is cut off takes it
for a malformed one. -/
def number (ls : List Letter) : Token Number × Option (List Letter) :=
  let numeral :=
    match ls with
    | .char '-' :: rest => unsignedNumeral true rest
    | _ => unsignedNumeral false ls
  match numeral with
  | .error f => (⟨.error f, some .malformed⟩, none)
  | .ok (n, rest) =>
    match n.value? with
    | some v => (.ok v, some rest)
    | none => (⟨.error .malformed, none⟩, some rest)

def shortEscape? : Char → Option Char
  | '"' => some '"'
  | '\\' => some '\\'
  | '/' => some '/'
  | 'b' => some (Char.ofNat 8)
  | 'f' => some (Char.ofNat 12)
  | 'n' => some '\n'
  | 'r' => some '\r'
  | 't' => some '\t'
  | _ => none

def byteCount (ls : List Letter) : Nat := ls.foldl (fun n l => n + l.size) 0

/-- The code unit that four hexadecimal digits stand for; with fewer than four bytes left the text
has ended. -/
def codeUnit (ls : List Letter) : Except TextFault Nat :=
  match ls with
  | a :: b :: c :: d :: _ =>
    match hexDigit? a, hexDigit? b, hexDigit? c, hexDigit? d with
    | some a, some b, some c, some d => .ok (((a * 16 + b) * 16 + c) * 16 + d)
    | _, _, _, _ => .error (if byteCount ls < 4 then .truncated else .malformed)
  | _ => .error (if byteCount ls < 4 then .truncated else .malformed)

/-- What has been read of a string: its characters so far, in reverse, or a reader's first fault. -/
abbrev Partial := Except TextFault (List Char)

namespace Partial

def push (c : Char) (p : Partial) : Partial := p.map (c :: ·)

/-- A fault of readers only, if `bad`; the first one stays. -/
def spoil (bad : Bool) (p : Partial) : Partial := if bad then p.bind fun _ => .error .malformed else p

/-- A fault that no one gets past. -/
def stop (f : TextFault) (p : Partial) : Token String × Option (List Letter) :=
  (⟨p.bind fun _ => .error f, some f⟩, none)

/-- The closing quote, where a reader also complains of stray bytes. -/
def close (strayed : Bool) (p : Partial) (rest : List Letter) :
    Token String × Option (List Letter) :=
  (⟨(p.spoil strayed).map fun cs => String.ofList cs.reverse, none⟩, some rest)

end Partial

/-- Whether the code unit is the first half of a surrogate pair. -/
def isFirstHalf (n : Nat) : Bool := 0xD800 ≤ n && n ≤ 0xDBFF

def isSecondHalf (n : Nat) : Bool := 0xDC00 ≤ n && n ≤ 0xDFFF

def pairChar (first second : Nat) : Char :=
  Char.ofNat (0x10000 + (first - 0xD800) * 0x400 + (second - 0xDC00))

/-- The letters of a string after its opening quote. `strayed` says that a byte was stray, and
`half` holds the first half of a surrogate pair, whose second half must follow at once. -/
def string (strayed : Bool) (half : Option Nat) (p : Partial) :
    List Letter → Token String × Option (List Letter)
  | [] => p.stop .truncated
  | [.char '\\'] => p.stop .truncated
  | .char '\\' :: .char 'u' :: a :: b :: c :: d :: rest =>
    match codeUnit (a :: b :: c :: d :: rest), half with
    | .error f, _ => p.stop f
    | .ok n, some m =>
      if isSecondHalf n then string strayed none (p.push (pairChar m n)) rest
      else string strayed none (p.spoil true) rest
    | .ok n, none =>
      if isFirstHalf n then string strayed (some n) p rest
      else if isSecondHalf n then string strayed none (p.spoil true) rest
      else string strayed none (p.push (Char.ofNat n)) rest
  | .char '\\' :: .char 'u' :: rest =>
    p.stop (if byteCount rest < 4 then .truncated else .malformed)
  | .char '\\' :: .char e :: rest =>
    match shortEscape? e with
    | some c => string strayed none ((p.spoil half.isSome).push c) rest
    | none => (p.spoil half.isSome).stop .malformed
  | .char '\\' :: .stray _ :: _ => p.stop .malformed
  | .char '"' :: rest => (p.spoil half.isSome).close strayed rest
  | .char c :: rest =>
    if c.toNat < 0x20 then p.stop .malformed
    else string strayed none ((p.spoil half.isSome).push c) rest
  | .stray _ :: rest => string true none (p.spoil half.isSome) rest

/-- The blanks that JSON allows between tokens. -/
def isSpace : Letter → Bool
  | .char c => c = ' ' || c = '\n' || c = '\t' || c = '\r'
  | .stray _ => false

def skipSpace (ls : List Letter) : List Letter := ls.dropWhile isSpace

/-- The rest of a word that must stand there. -/
def word : List Char → List Letter → Except TextFault (List Letter)
  | [], ls => .ok ls
  | _ :: _, [] => .error .truncated
  | c :: cs, l :: ls => if l = .char c then word cs ls else .error .malformed

/-- A word that stands for a document. -/
def keyword (cs : List Char) (d : Document) (ls : List Letter) : Document × Option (List Letter) :=
  match word cs ls with
  | .ok rest => (d, some rest)
  | .error f => (.broken f, none)

/-- Elements or members: those that could be followed, the fault after them, and what is left. -/
abbrev Sequence (α : Type) := List α × Option TextFault × Option (List Letter)

namespace Sequence

def cons {α : Type} (a : α) (s : Sequence α) : Sequence α := (a :: s.1, s.2)

/-- What follows an item: the end, a comma and more, or a fault. -/
def after {α : Type} (a : α) (closing : Char) (more : List Letter → Sequence α) :
    Option (List Letter) → Sequence α
  | none => ([a], none, none)
  | some rest =>
    match skipSpace rest with
    | [] => ([a], some .truncated, none)
    | l :: rest =>
      if l = .char ',' then cons a (more rest)
      else if l = .char closing then ([a], none, some rest)
      else ([a], some .malformed, none)

end Sequence

/-- What stands where a key should be; no one gets past it. -/
def misplacedMember (f : TextFault) (d : Document) : Sequence (Token String × Document) :=
  ([(Token.fault f, .misplaced d)], none, none)

mutual
/-- The document at the front and what follows it, if anyone can get past it. Each letter starts at
most three of these functions, and each start takes one unit of fuel. -/
def parse : Nat → List Letter → Document × Option (List Letter)
  | 0, _ => (.absent, none)
  | fuel + 1, ls =>
    match skipSpace ls with
    | [] => (.absent, none)
    | .char 'n' :: rest => keyword ['u', 'l', 'l'] .null rest
    | .char 't' :: rest => keyword ['r', 'u', 'e'] (.bool true) rest
    | .char 'f' :: rest => keyword ['a', 'l', 's', 'e'] (.bool false) rest
    | .char '"' :: rest =>
      let (token, rest) := string false none (.ok []) rest
      (.str token, rest)
    | .char '[' :: rest =>
      let (elems, ending, rest) := elements fuel (skipSpace rest)
      (.arr elems ending, rest)
    | .char '{' :: rest =>
      let (members, ending, rest) := members fuel (skipSpace rest)
      (.obj members ending, rest)
    | l :: rest =>
      if l = .char '-' ∨ (digit? l).isSome then
        let (token, rest) := number (l :: rest)
        (.num token, rest)
      else (.broken .malformed, none)

/-- The elements after an opening bracket. -/
def elements : Nat → List Letter → Sequence Document
  | 0, _ => ([], some .truncated, none)
  | _, [] => ([], some .truncated, none)
  | _, .char ']' :: rest => ([], none, some rest)
  | fuel + 1, ls => moreElements fuel ls

def moreElements : Nat → List Letter → Sequence Document
  | 0, _ => ([], some .truncated, none)
  | fuel + 1, ls =>
    let (d, rest) := parse fuel ls
    Sequence.after d ']' (moreElements fuel) rest

/-- The members after an opening brace. -/
def members : Nat → List Letter → Sequence (Token String × Document)
  | 0, _ => ([], some .truncated, none)
  | _, [] => ([], some .truncated, none)
  | _, .char '}' :: rest => ([], none, some rest)
  | fuel + 1, ls => moreMembers fuel ls

def moreMembers : Nat → List Letter → Sequence (Token String × Document)
  | 0, _ => ([], some .truncated, none)
  | fuel + 1, ls =>
    match skipSpace ls with
    | [] => misplacedMember .truncated .absent
    | .char '"' :: rest =>
      match string false none (.ok []) rest with
      | (key, none) => ([(key, .absent)], none, none)
      | (key, some rest) =>
        match skipSpace rest with
        | [] => ([(key, .absent)], none, none)
        | .char ':' :: rest =>
          let (d, rest) := parse fuel rest
          Sequence.after (key, d) '}' (moreMembers fuel) rest
        | _ => ([(key, .broken .malformed)], none, none)
    | ls => misplacedMember .malformed (parse fuel ls).1
end

/-- A text read as one document, and the fault met after it. -/
def ofLetters (ls : List Letter) : Document × Option TextFault :=
  let (d, rest) := parse (4 * ls.length + 4) ls
  match rest with
  | none => (d, none)
  | some rest => (d, if (skipSpace rest).isEmpty then none else some .malformed)

def depthLimit : Nat := 127

/-- The end of an array or object, once its parts are read. -/
def finish {α : Type} (ending : Option TextFault) (a : α) : Except TextFault α :=
  match ending with
  | none => .ok a
  | some f => .error f

mutual
/-- The value of a document, in which `depth` more levels of containers are allowed. -/
def toJson (depth : Nat) : Document → Except TextFault Json
  | .null => .ok .null
  | .bool b => .ok (.bool b)
  | .num n => n.read.map .num
  | .str s => s.read.map .str
  | .arr elems ending =>
    if depth = 0 then .error .malformed
    else do finish ending (Json.arr (← elementsToJson (depth - 1) elems))
  | .obj members ending =>
    if depth = 0 then .error .malformed
    else do finish ending (Json.object (← membersToJson (depth - 1) members))
  | .absent => .error .truncated
  | .broken f => .error f
  | .misplaced _ => .error .malformed
  | .value v => .ok v

def elementsToJson (depth : Nat) : List Document → Except TextFault (List Json)
  | [] => .ok []
  | d :: rest => do return (← toJson depth d) :: (← elementsToJson depth rest)

def membersToJson (depth : Nat) :
    List (Token String × Document) → Except TextFault (List (String × Json))
  | [] => .ok []
  | (key, d) :: rest => do
    return (← key.read, ← toJson depth d) :: (← membersToJson depth rest)
end

mutual
/-- The fault that even skipping the document meets. -/
def skipFault : Document → Option TextFault
  | .num n => n.skipped
  | .str s => s.skipped
  | .arr elems ending => (elementsSkipFault elems).or ending
  | .obj members ending => (membersSkipFault members).or ending
  | .absent => some .truncated
  | .broken f => some f
  | .misplaced _ => some .malformed
  | .null => none
  | .bool _ => none
  | .value _ => none

def elementsSkipFault : List Document → Option TextFault
  | [] => none
  | d :: rest => (skipFault d).or (elementsSkipFault rest)

def membersSkipFault : List (Token String × Document) → Option TextFault
  | [] => none
  | (key, d) :: rest => (key.skipped.or (skipFault d)).or (membersSkipFault rest)
end

/-- The document one level at a time: the parts of an embedded value are embedded values. -/
def expose : Document → Document
  | .value .null => .null
  | .value (.bool b) => .bool b
  | .value (.num n) => .num (.ok n)
  | .value (.str s) => .str (.ok s)
  | .value (.arr elems) => .arr (elems.map .value) none
  | .value (.obj members) => .obj (members.map fun m => (.ok m.1, .value m.2)) none
  | d => d

end Document

/-- The value of a text that is JSON from its first letter to its last, with containers nested at
most `depth` deep. -/
def ofLettersWithin (depth : Nat) (ls : List Letter) : Except TextFault Json := do
  let (d, trailing) := Document.ofLetters ls
  let v ← d.toJson depth
  Document.finish trailing v

/-- The value of a text that is JSON. -/
def ofLetters (ls : List Letter) : Except TextFault Json := ofLettersWithin Document.depthLimit ls

def ofString (s : String) : Except TextFault Json := ofLetters (Letter.ofString s)

end ChatRelay.Json
