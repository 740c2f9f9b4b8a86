/-!
# Letters: characters and stray bytes

A text that arrives as bytes need not be UTF-8. It is read as a list of letters: the characters
that its well-formed sequences stand for, and each byte that belongs to none of them.
-/
namespace ChatRelay

/-- One unit of a text that arrived as bytes. -/
inductive Letter where
  | char (c : Char)
  | stray (byte : UInt8)
  deriving DecidableEq, Repr

namespace Letter

def ofString (s : String) : List Letter := s.toList.map .char

def size : Letter → Nat
  | .char c => c.utf8Size
  | .stray _ => 1

/-- A byte that continues a character, as its six bits. -/
def tail? (b : UInt8) : Option Nat :=
  if 0x80 ≤ b.toNat ∧ b.toNat ≤ 0xBF then some (b.toNat - 0x80) else none

/-- A character of two bytes. -/
def two? (a b : UInt8) : Option Char := do
  let y ← tail? b
  if 0xC2 ≤ a.toNat ∧ a.toNat ≤ 0xDF then some (Char.ofNat ((a.toNat - 0xC0) * 64 + y)) else none

/-- A character of three bytes: neither one that two bytes could hold nor half of a pair. -/
def three? (a b c : UInt8) : Option Char := do
  let y ← tail? b
  let z ← tail? c
  if 0xE0 ≤ a.toNat ∧ a.toNat ≤ 0xEF then
    let n := ((a.toNat - 0xE0) * 64 + y) * 64 + z
    if n < 0x800 ∨ (0xD800 ≤ n ∧ n ≤ 0xDFFF) then none else some (Char.ofNat n)
  else none

/-- A character of four bytes: not one that three bytes could hold, nor one past the last. -/
def four? (a b c d : UInt8) : Option Char := do
  let x ← tail? b
  let y ← tail? c
  let z ← tail? d
  if 0xF0 ≤ a.toNat ∧ a.toNat ≤ 0xF4 then
    let n := (((a.toNat - 0xF0) * 64 + x) * 64 + y) * 64 + z
    if n < 0x10000 ∨ 0x10FFFF < n then none else some (Char.ofNat n)
  else none

/-- The character that the bytes start with, and how many of them it takes. -/
def leading? : List UInt8 → Option (Char × Nat)
  | [] => none
  | a :: rest =>
    if a.toNat < 0x80 then some (Char.ofNat a.toNat, 1)
    else
      match rest with
      | [] => none
      | [b] => (two? a b).map (·, 2)
      | [b, c] => (two? a b).map (·, 2) <|> (three? a b c).map (·, 3)
      | b :: c :: d :: _ =>
        (two? a b).map (·, 2) <|> (three? a b c).map (·, 3) <|> (four? a b c d).map (·, 4)

/-- The letters of a list of bytes, where `fuel` is at least its length. -/
def ofBytesFrom : Nat → List UInt8 → List Letter
  | 0, _ => []
  | _, [] => []
  | fuel + 1, a :: rest =>
    match leading? (a :: rest) with
    | some (c, n) => .char c :: ofBytesFrom fuel (rest.drop (n - 1))
    | none => .stray a :: ofBytesFrom fuel rest

def ofBytes (bytes : List UInt8) : List Letter := ofBytesFrom bytes.length bytes

def text? : List Letter → Option (List Char)
  | [] => some []
  | .char c :: rest => (text? rest).map (c :: ·)
  | .stray _ :: _ => none

end Letter
end ChatRelay
