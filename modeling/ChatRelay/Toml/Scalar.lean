import ChatRelay.Text.Digit
import ChatRelay.Toml.Basic

/-!
# Values of TOML that are not quoted

A word is a truth value, a number, or a date or time by its form, and it is refused if it has the
form of none. The digits of a whole number count only once the number is wanted.
-/
namespace ChatRelay.Toml

/-- The number of exactly so many decimal digits at the front. -/
def fixedDigits : Nat → Nat → List Char → Option (Nat × List Char)
  | 0, n, rest => some (n, rest)
  | count + 1, n, c :: rest =>
    (Text.digit? 10 c).bind fun d => fixedDigits count (n * 10 + d) rest
  | _ + 1, _, [] => none

def daysIn (year month : Nat) : Nat :=
  if month = 2 then
    if year % 4 = 0 && (year % 100 ≠ 0 || year % 400 = 0) then 29 else 28
  else if [4, 6, 9, 11].contains month then 30
  else 31

def afterDate (cs : List Char) : Option (List Char) :=
  match fixedDigits 4 0 cs with
  | some (year, '-' :: rest) =>
    match fixedDigits 2 0 rest with
    | some (month, '-' :: rest) =>
      match fixedDigits 2 0 rest with
      | some (day, rest) =>
        if 1 ≤ month ∧ month ≤ 12 ∧ 1 ≤ day ∧ day ≤ daysIn year month then some rest else none
      | none => none
    | _ => none
  | _ => none

def afterMinutes (cs : List Char) : Option (List Char) :=
  match fixedDigits 2 0 cs with
  | some (hours, ':' :: rest) =>
    match fixedDigits 2 0 rest with
    | some (minutes, rest) => if hours ≤ 23 ∧ minutes ≤ 59 then some rest else none
    | none => none
  | _ => none

def afterFraction : List Char → Option (List Char)
  | '.' :: c :: rest => if c.isDigit then some (rest.dropWhile Char.isDigit) else none
  | '.' :: [] => none
  | rest => some rest

/-- What follows a time of day; its seconds may be left out, and a minute may have one more. -/
def afterTime (cs : List Char) : Option (List Char) :=
  match afterMinutes cs with
  | some (':' :: rest) =>
    match fixedDigits 2 0 rest with
    | some (seconds, rest) => if seconds ≤ 60 then afterFraction rest else none
    | none => none
  | rest => rest

/-- Whether nothing is left, or the difference to universal time and nothing else. -/
def isOffset : List Char → Bool
  | [] => true
  | ['Z'] => true
  | ['z'] => true
  | '+' :: rest => afterMinutes rest = some []
  | '-' :: rest => afterMinutes rest = some []
  | _ => false

def isDate (cs : List Char) : Bool := afterDate cs = some []

/-- A date, a time of day, or a date with a time of day and perhaps an offset. -/
def isMoment (cs : List Char) : Bool :=
  match afterDate cs with
  | some [] => true
  | some (c :: rest) => ['T', 't', ' '].contains c && (afterTime rest).any isOffset
  | none => afterTime cs = some []

/-- Whether each underscore stands between two digits of a base. -/
def underscoresFit (base : Nat) : List Char → Bool
  | '_' :: _ => false
  | [_, '_'] => false
  | c :: '_' :: d :: rest =>
    (Text.digit? base c).isSome && (Text.digit? base d).isSome && underscoresFit base (d :: rest)
  | _ :: rest => underscoresFit base rest
  | [] => true

def dropUnderscores (cs : List Char) : List Char := cs.filter fun c => c ≠ '_'

/-- The number of digits of a base; there has to be one. -/
def natural? (base : Nat) (cs : List Char) : Option Nat :=
  if cs.isEmpty then none
  else cs.foldlM (fun n c => (Text.digit? base c).map fun d => n * base + d) 0

/-- A whole number in another base, after the letter of the base. -/
def based? (base : Nat) (cs : List Char) : Option Value :=
  let digits := dropUnderscores cs
  if underscoresFit 16 cs && digits.all fun c => (Text.digit? base c).isSome then
    some (.integer ((natural? base digits).map Int.ofNat))
  else none

/-- A whole number in base ten, without its sign. -/
def decimal? (negative : Bool) (cs : List Char) : Option Value :=
  if underscoresFit 16 cs && (cs = ['0'] || cs.head? ≠ some '0') then
    some (.integer ((natural? 10 (dropUnderscores cs)).map fun n =>
      if negative then -(n : Int) else n))
  else none

/-- Whether nothing is left, or an exponent and nothing else. -/
def isExponent : List Char → Bool
  | [] => true
  | c :: rest =>
    let digits := match rest with
      | '+' :: rest => rest
      | '-' :: rest => rest
      | rest => rest
    ['e', 'E'].contains c && !digits.isEmpty && digits.all Char.isDigit

/-- Whether a word without its sign is a number with a fraction, an exponent or both. -/
def isFraction (cs : List Char) : Bool :=
  let plain := dropUnderscores cs
  let whole := plain.takeWhile Char.isDigit
  underscoresFit 10 cs && !whole.isEmpty && (whole = ['0'] || whole.head? ≠ some '0')
    && (afterFraction (plain.dropWhile Char.isDigit)).any isExponent

/-- A number, a date or a time, given with its sign and without. -/
def number? (negative : Bool) (cs body : List Char) : Option Value :=
  match body with
  | [] => none
  | c :: _ =>
    let rest := body.dropWhile fun c => c.isDigit || c = '_'
    if !c.isDigit then none
    else if [some '-', some ':'].contains rest.head? then
      if isMoment cs then some (.moment (String.ofList cs)) else none
    else if body.any fun c => ['.', 'e', 'E'].contains c then
      if isFraction body then some (.fraction (String.ofList cs)) else none
    else decimal? negative body

/-- The value that a word stands for. -/
def scalar? (cs : List Char) : Option Value :=
  let body := match cs with
    | '+' :: rest => rest
    | '-' :: rest => rest
    | rest => rest
  if cs = "true".toList then some (.truth true)
  else if cs = "false".toList then some (.truth false)
  else if body = "inf".toList || body = "nan".toList then some (.fraction (String.ofList cs))
  else
    match cs with
    | '0' :: 'x' :: digits => based? 16 digits
    | '0' :: 'o' :: digits => based? 8 digits
    | '0' :: 'b' :: digits => based? 2 digits
    | _ => number? (cs.head? = some '-') cs body

end ChatRelay.Toml
