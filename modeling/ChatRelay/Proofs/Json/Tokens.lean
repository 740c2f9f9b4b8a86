import ChatRelay.Json.Document
import ChatRelay.Json.Printer
import Mathlib.Tactic.IntervalCases

/-!
# Numbers and strings read back

What is written for a whole number and for a string is read as that number and that string. A number
ends where no letter follows that could continue it; a string ends at its own quote.
-/
namespace ChatRelay.Json

theorem digit?_of_isDigit {c : Char} (digit : c.isDigit = true) :
    Text.digit? 10 c = some (c.toNat - '0'.toNat) := by
  simp only [Char.isDigit, ge_iff_le, Bool.and_eq_true, decide_eq_true_eq] at digit
  have bounds : '0' ≤ c ∧ c ≤ '9' := digit
  have small : c.toNat - 48 < 10 := by
    have : c.toNat ≤ 57 := digit.2
    omega
  simp [Text.digit?, bounds, small, Option.filter]

/-- All digits at the front are taken. -/
theorem takeDigits_append {cs : List Char} (digits : ∀ c ∈ cs, c.isDigit = true)
    {rest : List Letter} (apart : ∀ l ∈ rest.head?, Document.digit? l = none) :
    Document.takeDigits (cs.map .char ++ rest) =
      (cs.map fun c => c.toNat - '0'.toNat, rest) := by
  induction cs with
  | nil =>
    cases rest with
    | nil => rfl
    | cons l rest => simp [Document.takeDigits, apart l rfl]
  | cons c cs ih =>
    have first := digit?_of_isDigit (digits c List.mem_cons_self)
    have others := ih fun c member => digits c (List.mem_cons_of_mem _ member)
    simp only [List.map_cons, List.cons_append, Document.takeDigits, Document.digit?, first, others]

theorem takeDigits_toDigits (n : Nat) {rest : List Letter}
    (apart : ∀ l ∈ rest.head?, Document.digit? l = none) :
    Document.takeDigits ((Nat.toDigits 10 n).map .char ++ rest) =
      (Decimal.digitsOf n, rest) :=
  takeDigits_append (fun _ member => Nat.isDigit_of_mem_toDigits (by decide) (by decide) member)
    apart

theorem wholeValue_digitsOf (n : Nat) : Numeral.wholeValue (Decimal.digitsOf n) = n := by
  have same : Numeral.wholeValue (Decimal.digitsOf n) =
      Nat.ofDigitChars 10 (Nat.toDigits 10 n) 0 := by
    rw [Numeral.wholeValue, Decimal.digitsOf, List.foldl_map]
    simp [Nat.ofDigitChars, Nat.mul_comm]
  rw [same, Nat.ofDigitChars_toDigits (by decide) (by decide)]

theorem digitsOf_of_lt {n : Nat} (small : n < 10) : Decimal.digitsOf n = [n] := by
  rw [Decimal.digitsOf, Nat.toDigits_of_lt_base small]
  interval_cases n <;> rfl

theorem digitsOf_of_le {n : Nat} (large : 10 ≤ n) :
    Decimal.digitsOf n = Decimal.digitsOf (n / 10) ++ [n % 10] := by
  have last := digitsOf_of_lt (Nat.mod_lt n (show 0 < 10 by decide))
  rw [Decimal.digitsOf, Nat.toDigits_of_lt_base (Nat.mod_lt n (by decide))] at last
  rw [Decimal.digitsOf, Nat.toDigits_of_base_le (by decide) large, List.map_append, last]
  rfl

/-- No number is written with a zero in front, but zero itself. -/
theorem digitsOf_ne_zero_cons (n d : Nat) (ds : List Nat) : Decimal.digitsOf n ≠ 0 :: d :: ds := by
  induction n using Nat.strong_induction_on generalizing d ds with
  | h n ih =>
    intro written
    by_cases small : n < 10
    · rw [digitsOf_of_lt small] at written
      cases written
    · rw [digitsOf_of_le (Nat.not_lt.1 small)] at written
      have value := wholeValue_digitsOf (n / 10)
      match front : Decimal.digitsOf (n / 10) with
      | [] => simp [front] at written
      | [first] =>
        rw [front] at written value
        have zero : first = 0 := (List.cons.inj written).1
        have same : first = n / 10 := by simpa [Numeral.wholeValue] using value
        omega
      | first :: second :: others =>
        rw [front] at written
        obtain ⟨rfl, _⟩ := List.cons.inj written
        exact ih (n / 10) (by omega) second others front

/-- Whether a number that is written may end before these letters: none of them goes on with it. -/
def EndsNumber (rest : List Letter) : Prop :=
  ∀ l ∈ rest.head?, Document.digit? l = none ∧ l ≠ .char '.' ∧ l ≠ .char 'e' ∧ l ≠ .char 'E'

theorem endsNumber_nil : EndsNumber [] := fun _ member => by cases member

theorem endsNumber_mark {c : Char} (mark : c = ',' ∨ c = ']' ∨ c = '}') (rest : List Letter) :
    EndsNumber (.char c :: rest) := by
  intro l member
  obtain rfl := Option.some.inj member
  rcases mark with rfl | rfl | rfl <;> decide

theorem wholePart_toDigits (n : Nat) {rest : List Letter} (ends : EndsNumber rest) :
    Document.wholePart ((Nat.toDigits 10 n).map .char ++ rest) =
      .ok (Decimal.digitsOf n, rest) := by
  have taken := takeDigits_toDigits n fun l member => (ends l member).1
  have some : Document.someDigits ((Nat.toDigits 10 n).map .char ++ rest) =
      .ok (Decimal.digitsOf n, rest) := by
    rw [Document.someDigits, taken]
    match written : Decimal.digitsOf n with
    | [] => simp [Decimal.digitsOf, Nat.toDigits_ne_nil] at written
    | d :: ds => rfl
  rw [Document.wholePart, some]
  split
  · rename_i d ds _ leading
    simp only [Except.ok.injEq, Prod.mk.injEq] at leading
    exact absurd leading.1 (digitsOf_ne_zero_cons n d ds)
  · rfl

theorem fractionPart_of_ends {rest : List Letter} (ends : EndsNumber rest) :
    Document.fractionPart rest = .ok (none, rest) := by
  cases rest with
  | nil => rfl
  | cons l rest =>
    have point := (ends l rfl).2.1
    unfold Document.fractionPart
    split
    · rename_i same
      cases same
      exact absurd rfl point
    · rfl

theorem exponentPart_of_ends {rest : List Letter} (ends : EndsNumber rest) :
    Document.exponentPart rest = .ok (none, rest) := by
  cases rest with
  | nil => rfl
  | cons l rest =>
    obtain ⟨_, _, small, large⟩ := ends l rfl
    unfold Document.exponentPart
    dsimp only
    split
    · rename_i same
      cases same
      exact absurd rfl small
    · rename_i same
      cases same
      exact absurd rfl large
    · rfl

/-- The digits of a number are read back as far as the number goes. -/
theorem unsignedNumeral_toDigits (negative : Bool) (n : Nat) {rest : List Letter}
    (ends : EndsNumber rest) :
    Document.unsignedNumeral negative ((Nat.toDigits 10 n).map .char ++ rest) =
      .ok (⟨negative, Decimal.digitsOf n, none, none⟩, rest) := by
  simp only [Document.unsignedNumeral, wholePart_toDigits n ends, fractionPart_of_ends ends,
    exponentPart_of_ends ends, bind, Except.bind, pure, Except.pure]

/-- The numeral of a number that has a place among the whole ones stands for it. -/
theorem value?_nonnegative {n : Nat} (w : WholeNumber) (same : w.val = n) :
    (⟨false, Decimal.digitsOf n, none, none⟩ : Numeral).value? = some (.whole w) := by
  have upper := w.upper
  have inside : n < Numeral.significandBound := by
    rw [Numeral.significandBound]
    omega
  obtain ⟨val, lower, upper⟩ := w
  obtain rfl : val = n := same
  simp [Numeral.value?, wholeValue_digitsOf, inside, WholeNumber.ofInt?, lower, upper]

theorem value?_negative {n : Nat} (w : WholeNumber) (same : w.val = -((n + 1 : Nat) : Int)) :
    (⟨true, Decimal.digitsOf (n + 1), none, none⟩ : Numeral).value? = some (.whole w) := by
  have lower := w.lower
  have inside : n + 1 < Numeral.significandBound := by
    rw [Numeral.significandBound]
    omega
  have converts : WholeNumber.ofInt? (-((n + 1 : Nat) : Int)) = some w := by
    rw [← same]
    exact dif_pos ⟨w.lower, w.upper⟩
  simp only [Numeral.value?, wholeValue_digitsOf, inside, and_true, if_true,
    Nat.add_one_ne_zero, if_false, converts]

theorem toDigits_eq_cons (n : Nat) :
    ∃ c cs, Nat.toDigits 10 n = c :: cs ∧ c.isDigit = true := by
  match digits : Nat.toDigits 10 n with
  | [] => exact absurd digits Nat.toDigits_ne_nil
  | c :: cs =>
    have member : c ∈ Nat.toDigits 10 n := digits ▸ List.mem_cons_self
    exact ⟨c, cs, rfl, Nat.isDigit_of_mem_toDigits (by decide) (by decide) member⟩

/-- What a number may begin with. -/
def StartsNumber (c : Char) : Prop := c = '-' ∨ c.isDigit = true

theorem StartsNumber.ne {c other : Char} (starts : StartsNumber c) (sign : other ≠ '-')
    (digit : other.isDigit = false) : c ≠ other := by
  rintro rfl
  rcases starts with same | digit'
  · exact sign same
  · exact absurd (digit.symm.trans digit') Bool.false_ne_true

theorem integerChars_eq_cons (n : Int) :
    ∃ c cs, integerChars n = c :: cs ∧ StartsNumber c := by
  match n with
  | .ofNat m =>
    obtain ⟨c, cs, digits, digit⟩ := toDigits_eq_cons m
    exact ⟨c, cs, digits, .inr digit⟩
  | .negSucc m => exact ⟨'-', _, rfl, .inl rfl⟩

/-- A whole number is read back up to where it ends. -/
theorem number_integerChars (w : WholeNumber) {rest : List Letter} (ends : EndsNumber rest) :
    Document.number ((integerChars w.val).map .char ++ rest) = (.ok (.whole w), some rest) := by
  match written : w.val with
  | .ofNat n =>
    have unsigned := unsignedNumeral_toDigits false n ends
    have value := value?_nonnegative w written
    obtain ⟨c, cs, digits, digit⟩ := toDigits_eq_cons n
    rw [integerChars]
    unfold Document.number
    split
    rename_i negative
    · -- a digit is no sign
      rw [digits] at negative
      cases Letter.char.inj (List.cons.inj negative).1
      cases digit
    · rw [unsigned]
      dsimp only
      rw [value]
  | .negSucc n =>
    have unsigned := unsignedNumeral_toDigits true (n + 1) ends
    have value := value?_negative w (by rw [written, Int.negSucc_eq]; rfl)
    simp only [integerChars, List.map_cons, List.cons_append, Document.number, unsigned, value]

theorem digit?_hexChar {d : Nat} (small : d < 16) : Text.digit? 16 (hexChar d) = some d := by
  interval_cases d <;> rfl

/-- The code unit of a control character is its number. -/
theorem codeUnit_control {n : Nat} (control : n < 32) (rest : List Letter) :
    Document.codeUnit (.char '0' :: .char '0' :: .char (hexChar (n / 16)) ::
      .char (hexChar (n % 16)) :: rest) = .ok n := by
  have zero : Document.hexDigit? (.char '0') = some 0 := rfl
  have high : Document.hexDigit? (.char (hexChar (n / 16))) = some (n / 16) :=
    digit?_hexChar (by omega)
  have low : Document.hexDigit? (.char (hexChar (n % 16))) = some (n % 16) :=
    digit?_hexChar (by omega)
  simp only [Document.codeUnit, zero, high, low, Except.ok.injEq]
  omega

theorem string_shortEscape {e c : Char} (escapes : Document.shortEscape? e = some c)
    (read : List Char) (rest : List Letter) :
    Document.string false none (.ok read) (.char '\\' :: .char e :: rest) =
      Document.string false none (.ok (c :: read)) rest := by
  have notUnit : e ≠ 'u' := by
    rintro rfl
    cases escapes
  rw [Document.string]
  · rw [escapes]
    rfl
  · exact fun _ _ _ _ _ _ => notUnit
  · exact notUnit

theorem string_control {c : Char} (control : c.toNat < 32) (read : List Char)
    (rest : List Letter) :
    Document.string false none (.ok read) (.char '\\' :: .char 'u' :: .char '0' :: .char '0' ::
      .char (hexChar (c.toNat / 16)) :: .char (hexChar (c.toNat % 16)) :: rest) =
      Document.string false none (.ok (c :: read)) rest := by
  have first : Document.isFirstHalf c.toNat = false := by
    simp only [Document.isFirstHalf, Bool.and_eq_false_iff, decide_eq_false_iff_not]
    omega
  have second : Document.isSecondHalf c.toNat = false := by
    simp only [Document.isSecondHalf, Bool.and_eq_false_iff, decide_eq_false_iff_not]
    omega
  have unit := codeUnit_control control rest
  conv_lhs => unfold Document.string
  simp only [unit, first, second, Char.ofNat_toNat, Bool.false_eq_true, if_false]
  rfl

theorem string_plain {c : Char} (notQuote : c ≠ '"') (notSlash : c ≠ '\\')
    (plain : ¬ c.toNat < 32) (read : List Char) (rest : List Letter) :
    Document.string false none (.ok read) (.char c :: rest) =
      Document.string false none (.ok (c :: read)) rest := by
  rw [Document.string]
  · rw [if_neg plain]
    rfl
  all_goals simp_all

/-- A character that is written is read as itself. -/
theorem string_escapeChar (c : Char) (read : List Char) (rest : List Letter) :
    Document.string false none (.ok read) ((escapeChar c).map .char ++ rest) =
      Document.string false none (.ok (c :: read)) rest := by
  have ofNumber {n : Nat} (same : c.toNat = n) : c = Char.ofNat n := by
    rw [← same, Char.ofNat_toNat]
  unfold escapeChar
  split
  · subst_vars
    exact string_shortEscape rfl read rest
  split
  · subst_vars
    exact string_shortEscape rfl read rest
  split
  · subst_vars
    exact string_shortEscape rfl read rest
  split
  · subst_vars
    exact string_shortEscape rfl read rest
  split
  · subst_vars
    exact string_shortEscape rfl read rest
  split
  · rename_i backspace
    rw [ofNumber backspace]
    exact string_shortEscape rfl read rest
  split
  · rename_i feed
    rw [ofNumber feed]
    exact string_shortEscape rfl read rest
  split
  · rename_i control
    exact string_control control read rest
  · rename_i quote slash _ _ _ _ _ plain
    exact string_plain quote slash plain read rest

/-- A string is read back from its escaped characters up to the closing quote. -/
theorem string_flatMap_escapeChar (cs read : List Char) (rest : List Letter) :
    Document.string false none (.ok read)
        ((cs.flatMap escapeChar).map .char ++ .char '"' :: rest) =
      (.ok (String.ofList (read.reverse ++ cs)), some rest) := by
  induction cs generalizing read with
  | nil =>
    rw [List.flatMap_nil, List.map_nil, List.nil_append, Document.string, List.append_nil]
    rfl
  | cons c cs ih =>
    rw [List.flatMap_cons, List.map_append, List.append_assoc, string_escapeChar, ih,
      List.reverse_cons, List.append_assoc, List.singleton_append]

/-- A string is read back up to its closing quote. -/
theorem string_stringChars (s : String) (rest : List Letter) :
    ∃ quoted, (stringChars s).map .char ++ rest = .char '"' :: quoted ∧
      Document.string false none (.ok []) quoted = (.ok s, some rest) := by
  refine ⟨(s.toList.flatMap escapeChar).map .char ++ .char '"' :: rest, ?_, ?_⟩
  · simp [stringChars]
  · rw [string_flatMap_escapeChar, List.reverse_nil, List.nil_append, String.ofList_toList]

end ChatRelay.Json
