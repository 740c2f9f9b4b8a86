import ChatRelay.Json.Basic
import ChatRelay.Json.Decimal

/-!
# JSON as text

Compact text has no blanks at all; indented text puts each element and member on a line of its own,
two blanks deeper than its container. Members stand in the order of the value. A double always
shows that it is one: it has a point or an exponent.
-/
namespace ChatRelay
namespace Json

/-- Where positional notation ends, counted by the place of the decimal point: up to 16 digits
before the point, or up to four zeros after it. -/
def isPositional (point : Int) : Bool := -5 < point ∧ point ≤ 16

def digitChar (d : Nat) : Char := Char.ofNat ('0'.toNat + d)

def integerChars (n : Int) : List Char :=
  match n with
  | .ofNat m => Nat.toDigits 10 m
  | .negSucc m => '-' :: Nat.toDigits 10 (m + 1)

/-- A decimal in positional notation if its point is near, else with an exponent of ten. -/
def decimalChars (d : Decimal) : List Char :=
  let ds := d.digits.map digitChar
  if isPositional d.point then
    if d.point ≤ 0 then ['0', '.'] ++ List.replicate (-d.point).toNat '0' ++ ds
    else
      let k := d.point.toNat
      if ds.length ≤ k then ds ++ List.replicate (k - ds.length) '0' ++ ['.', '0']
      else ds.take k ++ '.' :: ds.drop k
  else
    let e := d.point - 1
    let mark := if e < 0 then ['e'] else ['e', '+']
    match ds with
    | [] => []
    | [c] => c :: mark ++ integerChars e
    | c :: rest => c :: '.' :: rest ++ mark ++ integerChars e

def doubleChars (d : Double) : List Char :=
  let magnitude := if d.isZero then ['0', '.', '0'] else decimalChars (Decimal.ofDouble d)
  if d.negative then '-' :: magnitude else magnitude

def numberChars : Number → List Char
  | .whole n => integerChars n.val
  | .double d => doubleChars d

def hexChar (n : Nat) : Char := if n < 10 then digitChar n else Char.ofNat ('a'.toNat + (n - 10))

/-- One character of a string: only the quote, the backslash and the control characters below
U+0020 are not written as themselves. -/
def escapeChar (c : Char) : List Char :=
  if c = '"' then ['\\', '"']
  else if c = '\\' then ['\\', '\\']
  else if c = '\n' then ['\\', 'n']
  else if c = '\r' then ['\\', 'r']
  else if c = '\t' then ['\\', 't']
  else if c.toNat = 8 then ['\\', 'b']
  else if c.toNat = 12 then ['\\', 'f']
  else if c.toNat < 0x20 then ['\\', 'u', '0', '0', hexChar (c.toNat / 16), hexChar (c.toNat % 16)]
  else [c]

def stringChars (s : String) : List Char := '"' :: s.toList.flatMap escapeChar ++ ['"']

def boolChars (b : Bool) : List Char := if b then ['t', 'r', 'u', 'e'] else ['f', 'a', 'l', 's', 'e']

mutual
/-- Text without blanks. -/
def compactChars : Json → List Char
  | .null => ['n', 'u', 'l', 'l']
  | .bool b => boolChars b
  | .num n => numberChars n
  | .str s => stringChars s
  | .arr elems => '[' :: compactElements elems ++ [']']
  | .obj members => '{' :: compactMembers members ++ ['}']

def compactElements : List Json → List Char
  | [] => []
  | [v] => compactChars v
  | v :: rest => compactChars v ++ ',' :: compactElements rest

def compactMembers : List (String × Json) → List Char
  | [] => []
  | [(k, v)] => stringChars k ++ ':' :: compactChars v
  | (k, v) :: rest => stringChars k ++ ':' :: compactChars v ++ ',' :: compactMembers rest
end

/-- A new line, indented by two blanks for each container around it. -/
def newLine (depth : Nat) : List Char := '\n' :: List.replicate (2 * depth) ' '

mutual
/-- Text with a line for each element and member; `depth` containers stand around the value. -/
def indentedChars (depth : Nat) : Json → List Char
  | .arr [] => ['[', ']']
  | .obj [] => ['{', '}']
  | .arr elems => '[' :: indentedElements (depth + 1) elems ++ newLine depth ++ [']']
  | .obj members => '{' :: indentedMembers (depth + 1) members ++ newLine depth ++ ['}']
  | .null => ['n', 'u', 'l', 'l']
  | .bool b => boolChars b
  | .num n => numberChars n
  | .str s => stringChars s

def indentedElements (depth : Nat) : List Json → List Char
  | [] => []
  | [v] => newLine depth ++ indentedChars depth v
  | v :: rest => newLine depth ++ indentedChars depth v ++ ',' :: indentedElements depth rest

def indentedMembers (depth : Nat) : List (String × Json) → List Char
  | [] => []
  | [(k, v)] => newLine depth ++ stringChars k ++ ':' :: ' ' :: indentedChars depth v
  | (k, v) :: rest =>
    newLine depth ++ stringChars k ++ ':' :: ' ' :: indentedChars depth v
      ++ ',' :: indentedMembers depth rest
end

def compact (v : Json) : String := String.ofList (compactChars v)

def indented (v : Json) : String := String.ofList (indentedChars 0 v)

end Json
end ChatRelay
