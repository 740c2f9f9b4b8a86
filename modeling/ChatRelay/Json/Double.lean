/-!
# Binary64 numbers in exact arithmetic

A finite double is a sign and a *rank*: the nonnegative doubles are numbered upwards from zero, so
that the rank of `0` is `0`, the rank of the least positive double is `1`, and a larger rank is a
larger number. The rank is also the bit pattern without its sign bit. Sums over halves never
appear: a rank stands for `significand * 2 ^ exponent`, and every operation rounds an exact
quotient of natural numbers to the nearest rank, a half going to the even one.
-/
namespace ChatRelay

/-- A binary64 number: a sign and the place of its magnitude among the nonnegative doubles. -/
structure Double where
  negative : Bool
  rank : Nat
  deriving DecidableEq, Repr

namespace Double

/-- The significands of normal doubles lie from here, `2 ^ 52`, to twice this. -/
def hiddenBit : Nat := 4503599627370496

def leastExponent : Int := -1074

/-- The first rank that is not a finite number. -/
def infiniteRank : Nat := 2047 * hiddenBit

def zero : Double := ⟨false, 0⟩

def isZero (d : Double) : Bool := d.rank = 0

def isPositive (d : Double) : Bool := !d.negative && d.rank ≠ 0

/-- At least zero; both zeros are. -/
def isNonnegative (d : Double) : Bool := !d.negative || d.rank = 0

def neg (d : Double) : Double := ⟨!d.negative, d.rank⟩

/-- The whole number `m` of the magnitude `m * 2 ^ d.exponent`. -/
def significand (d : Double) : Nat :=
  if d.rank < hiddenBit then d.rank else hiddenBit + d.rank % hiddenBit

/-- The power of two that goes with the significand. -/
def exponent (d : Double) : Int :=
  if d.rank < hiddenBit then leastExponent
  else leastExponent - 1 + (d.rank / hiddenBit : Nat)

/-- The quotient rounded to the nearest whole number, a half going to the even one. -/
def divideToEven (num den : Nat) : Nat :=
  let q := num / den
  let twice := 2 * (num % den)
  if twice < den then q else if den < twice then q + 1 else q + q % 2

/-- The fraction `num / den` divided by `2 ^ e`, as numerator and denominator. -/
def shiftDown (num den : Nat) (e : Int) : Nat × Nat :=
  (num <<< (-e).toNat, den <<< e.toNat)

/-- The greatest `e` with `2 ^ e ≤ num / den`, for positive `num` and `den`. -/
def floorLog2 (num den : Nat) : Int :=
  let guess : Int := (num.log2 : Int) - den.log2
  let (n, d) := shiftDown num den guess
  if n < d then guess - 1 else guess

/-- The rank nearest to `num / den`; it may be the infinite rank or above. A significand that
rounds up to the next power of two carries into the next exponent by itself. -/
def nearestRank (num den : Nat) : Nat :=
  if num = 0 then 0
  else
    let e := max (floorLog2 num den - 52) leastExponent
    let (n, d) := shiftDown num den e
    divideToEven n d + (e - leastExponent).toNat * hiddenBit

/-- The double nearest to `num / den` with the given sign, if it is finite. -/
def nearest? (negative : Bool) (num den : Nat) : Option Double :=
  let r := nearestRank num den
  if r < infiniteRank then some ⟨negative, r⟩ else none

def ofNat (n : Nat) : Double := ⟨false, nearestRank n 1⟩

def ofInt (n : Int) : Double := ⟨n < 0, nearestRank n.natAbs 1⟩

/-- Ten to a power of at most 308, rounded. -/
def powerOfTen (k : Nat) : Double := ofNat (Nat.pow 10 k)

/-- The rounded product, if it is finite. -/
def mul? (a b : Double) : Option Double :=
  let e := a.exponent + b.exponent
  nearest? (a.negative != b.negative)
    ((a.significand * b.significand) <<< e.toNat) (1 <<< (-e).toNat)

/-- The rounded quotient, for a divisor that is not zero and a quotient that is finite. -/
def div (a b : Double) : Double :=
  let e := a.exponent - b.exponent
  ⟨a.negative != b.negative,
    nearestRank (a.significand <<< e.toNat) (b.significand <<< (-e).toNat)⟩

def truncate (d : Double) : Nat :=
  (d.significand <<< d.exponent.toNat) >>> (-d.exponent).toNat

end Double
end ChatRelay
