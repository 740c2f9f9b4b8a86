import ChatRelay.Json.Basic

/-!
# Numerals

A numeral is kept as its digits; `value?` says which number it stands for. A numeral without a
point and without an exponent stands for a whole number if that fits 64 bits. Every other one
stands for a double, computed in two roundings: the digits make a significand below `2 ^ 64`
(further digits are counted or dropped), and the significand is multiplied or divided by a rounded
power of ten. The last place can therefore differ from the nearest double.
-/
namespace ChatRelay.Json

/-- A JSON numeral as written. -/
structure Numeral where
  negative : Bool
  whole : List Nat
  fraction : Option (List Nat)
  /-- The sign, true for minus, and the digits of the exponent. -/
  exponent : Option (Bool × List Nat)
  deriving DecidableEq, Repr

namespace Numeral

/-- The least number that no significand reaches, `2 ^ 64`. -/
def significandBound : Nat := 18446744073709551616

/-- The least number that no written exponent reaches, `2 ^ 31`. -/
def exponentBound : Nat := 2147483648

/-- Appends digits of the whole part; the second number counts those that no longer fit. -/
def takeWhole : Nat → List Nat → Nat × Nat
  | s, [] => (s, 0)
  | s, d :: ds =>
    if s * 10 + d < significandBound then takeWhole (s * 10 + d) ds else (s, ds.length + 1)

/-- Appends digits of the fraction while they fit; the second number counts the ones taken. -/
def takeFraction : Nat → List Nat → Nat × Nat
  | s, [] => (s, 0)
  | s, d :: ds =>
    if s * 10 + d < significandBound then
      let (s', n) := takeFraction (s * 10 + d) ds
      (s', n + 1)
    else (s, 0)

/-- The number that the exponent's digits stand for, unless it is out of bounds. -/
def exponentValue? : Nat → List Nat → Option Nat
  | e, [] => some e
  | e, d :: ds => if e * 10 + d < exponentBound then exponentValue? (e * 10 + d) ds else none

/-- The double `s * 10 ^ e`, rounded at each step, unless it is too large. A significand over a
power of ten past the 616th rounds to zero. -/
def scaled? (s : Nat) (e : Int) : Option Double :=
  let f := Double.ofNat s
  if s = 0 then some Double.zero
  else if 308 < e then none
  else if 0 ≤ e then f.mul? (Double.powerOfTen e.toNat)
  else if -308 ≤ e then some (f.div (Double.powerOfTen (-e).toNat))
  else if -616 ≤ e then
    some ((f.div (Double.powerOfTen 308)).div (Double.powerOfTen (-e - 308).toNat))
  else some Double.zero

/-- An exponent brought back into the range of written ones. -/
def clampExponent (e : Int) : Int := max (-exponentBound) (min e (exponentBound - 1))

/-- The double of a significand with a written exponent on top of `shift`. -/
def withExponent? (s : Nat) (shift : Int) : Bool × List Nat → Option Double
  | (minus, digits) =>
    match exponentValue? 0 digits with
    | some e => scaled? s (clampExponent (if minus then shift - e else shift + e))
    | none => if s ≠ 0 ∧ minus = false then none else some Double.zero

/-- The double of a numeral that is not a whole number. -/
def double? (n : Numeral) : Option Double :=
  let (s, dropped) := takeWhole 0 n.whole
  let (s, shift) :=
    match n.fraction with
    | some ds =>
      let (s', taken) := takeFraction s ds
      (s', (dropped : Int) - taken)
    | none => (s, (dropped : Int))
  let magnitude :=
    match n.exponent with
    | some e => withExponent? s shift e
    | none => scaled? s shift
  magnitude.map fun d => if n.negative then d.neg else d

def wholeValue (ds : List Nat) : Nat := ds.foldl (fun s d => s * 10 + d) 0

/-- The number that the numeral stands for; a double too large for 64 bits is none. -/
def value? (n : Numeral) : Option Number :=
  let s := wholeValue n.whole
  if n.fraction = none ∧ n.exponent = none ∧ s < significandBound then
    if n.negative then
      match (if s = 0 then none else WholeNumber.ofInt? (-s)) with
      | some w => some (.whole w)
      | none => some (.double (Double.ofNat s).neg)
    else (WholeNumber.ofInt? s).map .whole
  else n.double?.map .double

end Numeral
end ChatRelay.Json
