import ChatRelay.Json.Double

/-!
# The shortest decimal of a double

Among the decimals that round to a given double, the one with the fewest digits is taken, and of
several with that many digits the one nearest to the double. All comparisons are between whole
numbers: on the grid of decimals with a given number of digits only the two neighbours of the
double can be nearest, so only these are tried.
-/
namespace ChatRelay

/-- The positive number `0.d₁d₂… * 10 ^ point`, as the whole number of its digits. -/
structure Decimal where
  /-- The decimal digits, first one first. -/
  digits : List Nat
  /-- The place of the decimal point, counted from before the first digit. -/
  point : Int
  deriving DecidableEq, Repr

namespace Decimal

/-- The decimal digits of a number, first one first; zero has the digit zero. -/
def digitsOf (n : Nat) : List Nat := (Nat.toDigits 10 n).map fun c => c.toNat - '0'.toNat

/-- The fraction `num / den` divided by `10 ^ e`, as numerator and denominator. -/
def shiftDown (num den : Nat) (e : Int) : Nat × Nat :=
  (num * Nat.pow 10 (-e).toNat, den * Nat.pow 10 e.toNat)

/-- The least `p` with `num / den < 10 ^ p`, searched upwards from `p` for at most `fuel` steps. -/
def pointFrom (num den : Nat) : Nat → Int → Int
  | 0, p => p
  | fuel + 1, p =>
    let (n, d) := shiftDown num den p
    if n < d then p else pointFrom num den fuel (p + 1)

/-- The reals that round to one double, from `low` to `high`, with the double itself between
them: all three are counted in units of `2 ^ exponent`. -/
structure Interval where
  low : Nat
  middle : Nat
  high : Nat
  exponent : Int
  /-- Whether the ends round to the double themselves. -/
  closed : Bool

/-- The interval of a double that is not zero. Units are quarters of its last place, since below
a power of two the neighbour is only half as far. -/
def Interval.of (d : Double) : Interval :=
  let m := d.significand
  let narrow := d.significand = Double.hiddenBit ∧ Double.leastExponent < d.exponent
  { low := if narrow then 4 * m - 1 else 4 * m - 2
    middle := 4 * m
    high := 4 * m + 2
    exponent := d.exponent - 2
    closed := m % 2 = 0 }

/-- Whether the decimal `n * 10 ^ e` lies in the interval. -/
def Interval.contains (i : Interval) (n : Nat) (e : Int) : Bool :=
  let point := (n * Nat.pow 10 e.toNat) <<< (-i.exponent).toNat
  let scale := Nat.pow 10 (-e).toNat <<< i.exponent.toNat
  if i.closed then i.low * scale ≤ point ∧ point ≤ i.high * scale
  else i.low * scale < point ∧ point < i.high * scale

/-- The neighbour of the middle on the grid of multiples of `10 ^ e` that lies in the interval; of
two the nearer one, and of two equally near the even one. -/
def Interval.onGrid? (i : Interval) (e : Int) : Option Nat :=
  let num := (i.middle * Nat.pow 10 (-e).toNat) <<< i.exponent.toNat
  let den := Nat.pow 10 e.toNat <<< (-i.exponent).toNat
  let below := num / den
  match i.contains below e, i.contains (below + 1) e with
  | true, true => some (Double.divideToEven num den)
  | true, false => some below
  | false, true => some (below + 1)
  | false, false => none

/-- The first hit on the grids of `count`, `count + 1`, … digits. -/
def Interval.shortest (i : Interval) (point : Int) : Nat → Nat → Nat × Int
  | 0, count => (i.middle, point - count)
  | fuel + 1, count =>
    match i.onGrid? (point - count) with
    | some n => (n, point - count)
    | none => i.shortest point fuel (count + 1)

def trimZeros (ds : List Nat) : List Nat := (ds.reverse.dropWhile (· = 0)).reverse

/-- The shortest decimal of a double that is not zero. -/
def ofDouble (d : Double) : Decimal :=
  let i := Interval.of d
  let num := i.middle <<< i.exponent.toNat
  let den := 1 <<< (-i.exponent).toNat
  let point := pointFrom num den 700 (-330)
  let (n, e) := i.shortest point 17 1
  let ds := digitsOf n
  { digits := trimZeros ds, point := ds.length + e }

end Decimal
end ChatRelay
