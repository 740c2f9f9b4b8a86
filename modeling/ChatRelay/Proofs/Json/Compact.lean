import ChatRelay.Json.Canonical
import ChatRelay.Proofs.Json.Tokens

/-!
# Compact text read back

The compact text of a value stands for that value, as long as its numbers are whole and its
containers are not nested too deep: it is followed as a document without a fault, and the value of
this document is the value that was written.
-/
namespace ChatRelay.Json

mutual
/-- How deep containers are nested in a value. -/
def depth : Json → Nat
  | .arr elems => depthList elems + 1
  | .obj members => depthMembers members + 1
  | _ => 0

def depthList : List Json → Nat
  | [] => 0
  | v :: rest => max (depth v) (depthList rest)

def depthMembers : List (String × Json) → Nat
  | [] => 0
  | (_, v) :: rest => max (depth v) (depthMembers rest)
end

mutual
/-- Every number, at every depth, is whole. -/
def Integral : Json → Prop
  | .num (.double _) => False
  | .arr elems => IntegralList elems
  | .obj members => IntegralMembers members
  | _ => True

def IntegralList : List Json → Prop
  | [] => True
  | v :: rest => Integral v ∧ IntegralList rest

def IntegralMembers : List (String × Json) → Prop
  | [] => True
  | (_, v) :: rest => Integral v ∧ IntegralMembers rest
end

namespace Document

mutual
/-- The document that a value is written as. -/
def written : Json → Document
  | .null => .null
  | .bool b => .bool b
  | .num n => .num (.ok n)
  | .str s => .str (.ok s)
  | .arr elems => .arr (writtenList elems) none
  | .obj members => .obj (writtenMembers members) none

def writtenList : List Json → List Document
  | [] => []
  | v :: rest => written v :: writtenList rest

def writtenMembers : List (String × Json) → List (Token String × Document)
  | [] => []
  | (key, v) :: rest => (.ok key, written v) :: writtenMembers rest
end

theorem skipSpace_cons {l : Letter} (black : isSpace l = false) (rest : List Letter) :
    skipSpace (l :: rest) = l :: rest := by
  rw [skipSpace, List.dropWhile_cons, if_neg (by simp [black])]

theorem isSpace_of_startsNumber {c : Char} (starts : StartsNumber c) :
    isSpace (.char c) = false := by
  have blank : c ≠ ' ' := starts.ne (by decide) (by decide)
  have line : c ≠ '\n' := starts.ne (by decide) (by decide)
  have tab : c ≠ '\t' := starts.ne (by decide) (by decide)
  have feed : c ≠ '\r' := starts.ne (by decide) (by decide)
  simp [isSpace, blank, line, tab, feed]

/-- What begins like a number is followed as one. -/
theorem parse_number {c : Char} (starts : StartsNumber c) (fuel : Nat) {ls : List Letter}
    {token : Token Number} {rest : Option (List Letter)}
    (read : number (.char c :: ls) = (token, rest)) :
    parse (fuel + 1) (.char c :: ls) = (.num token, rest) := by
  have numeric : Letter.char c = .char '-' ∨ (digit? (.char c)).isSome = true := by
    rcases starts with rfl | digit
    · exact .inl rfl
    · exact .inr (by rw [digit?, digit?_of_isDigit digit, Option.isSome_some])
  rw [parse, skipSpace_cons (isSpace_of_startsNumber starts)]
  split
  case h_1 empty => cases empty
  case h_8 same =>
    obtain ⟨rfl, rfl⟩ := List.cons.inj same
    rw [if_pos numeric, read]
  all_goals
    rename_i same
    have impossible := Letter.char.inj (List.cons.inj same).1
    exact absurd impossible (starts.ne (by decide) (by decide))

theorem elements_of_ne {c : Char} (opens : c ≠ ']') (fuel : Nat) (ls : List Letter) :
    elements (fuel + 1) (.char c :: ls) = moreElements fuel (.char c :: ls) := by
  rw [elements]
  · simp
  · rintro rest ⟨⟩
    exact opens rfl

theorem members_of_ne {c : Char} (opens : c ≠ '}') (fuel : Nat) (ls : List Letter) :
    members (fuel + 1) (.char c :: ls) = moreMembers fuel (.char c :: ls) := by
  rw [members]
  · simp
  · rintro rest ⟨⟩
    exact opens rfl

/-- An item before a comma is followed by more. -/
theorem after_comma {α : Type} (a : α) (closing : Char) (more : List Letter → Sequence α)
    (rest : List Letter) :
    Sequence.after a closing more (some (.char ',' :: rest)) = Sequence.cons a (more rest) := rfl

/-- The text of a value begins with a letter that neither is a blank nor closes anything. -/
theorem compactChars_eq_cons {v : Json} (integral : Integral v) :
    ∃ c cs, compactChars v = c :: cs ∧ isSpace (.char c) = false ∧ c ≠ ']' := by
  cases v with
  | num n =>
    cases n with
    | double d => exact integral.elim
    | whole w =>
      obtain ⟨c, cs, first, starts⟩ := integerChars_eq_cons w.val
      exact ⟨c, cs, first, isSpace_of_startsNumber starts, starts.ne (by decide) (by decide)⟩
  | bool b => cases b <;> exact ⟨_, _, rfl, rfl, by decide⟩
  | _ => exact ⟨_, _, rfl, rfl, by decide⟩

theorem length_compactChars_pos {v : Json} (integral : Integral v) :
    0 < (compactChars v).length := by
  obtain ⟨c, cs, first, _⟩ := compactChars_eq_cons integral
  rw [first]
  exact Nat.succ_pos _

theorem compactElements_cons (v v' : Json) (vs : List Json) :
    compactElements (v :: v' :: vs) = compactChars v ++ ',' :: compactElements (v' :: vs) := rfl

theorem compactMembers_singleton (key : String) (v : Json) :
    compactMembers [(key, v)] = stringChars key ++ ':' :: compactChars v := rfl

theorem compactMembers_cons (key : String) (v : Json) (m : String × Json)
    (ms : List (String × Json)) :
    compactMembers ((key, v) :: m :: ms) =
      stringChars key ++ ':' :: compactChars v ++ ',' :: compactMembers (m :: ms) := rfl

theorem compactElements_eq_cons {v : Json} (integral : Integral v) (vs : List Json) :
    ∃ c cs, compactElements (v :: vs) = c :: cs ∧ isSpace (.char c) = false ∧ c ≠ ']' := by
  obtain ⟨c, cs, first, black, opens⟩ := compactChars_eq_cons integral
  cases vs with
  | nil => exact ⟨c, cs, first, black, opens⟩
  | cons v' vs => exact ⟨c, _, by rw [compactElements_cons, first]; rfl, black, opens⟩

theorem compactMembers_eq_cons (m : String × Json) (ms : List (String × Json)) :
    ∃ cs, compactMembers (m :: ms) = '"' :: cs := by
  obtain ⟨key, v⟩ := m
  cases ms with
  | nil => exact ⟨_, rfl⟩
  | cons m ms => exact ⟨_, rfl⟩

/-- A key is followed up to its colon, and the value after it as such. -/
theorem moreMembers_stringChars (key : String) (fuel : Nat) (ls : List Letter) :
    moreMembers (fuel + 1) ((stringChars key).map .char ++ .char ':' :: ls) =
      Sequence.after (.ok key, (parse fuel ls).1) '}' (moreMembers fuel) (parse fuel ls).2 := by
  obtain ⟨quoted, opens, read⟩ := string_stringChars key (.char ':' :: ls)
  have colon : skipSpace (.char ':' :: ls) = .char ':' :: ls := rfl
  rw [opens, moreMembers, skipSpace_cons rfl]
  simp only [read, colon]

mutual
/-- Two units of fuel for each letter are enough to follow the text of a value. -/
theorem parse_compactChars : ∀ (v : Json) (fuel : Nat) (rest : List Letter), Integral v →
    2 * (compactChars v).length ≤ fuel + 1 → EndsNumber rest →
    parse (fuel + 1) ((compactChars v).map .char ++ rest) = (written v, some rest)
  | .null, _, _, _, _, _ => rfl
  | .bool true, _, _, _, _, _ => rfl
  | .bool false, _, _, _, _, _ => rfl
  | .num (.whole w), fuel, rest, _, _, ends => by
    obtain ⟨c, cs, first, starts⟩ := integerChars_eq_cons w.val
    have read := number_integerChars w ends
    rw [first] at read
    rw [compactChars, numberChars, first]
    exact parse_number starts fuel read
  | .str s, fuel, rest, _, _, _ => by
    obtain ⟨quoted, opens, read⟩ := string_stringChars s rest
    rw [compactChars, opens, parse, skipSpace_cons rfl]
    simp only [read, written]
  | .arr [], fuel, rest, _, enough, _ => by
    obtain ⟨fuel, rfl⟩ : ∃ k, fuel = k + 1 := ⟨fuel - 1, by simp [compactChars] at enough; omega⟩
    rfl
  | .arr (v :: vs), fuel, rest, integral, enough, _ => by
    have length : (compactChars (.arr (v :: vs))).length =
        (compactElements (v :: vs)).length + 2 := by simp [compactChars]
    obtain ⟨fuel, rfl⟩ : ∃ k, fuel = k + 2 := ⟨fuel - 2, by omega⟩
    have followed := moreElements_compactElements (v :: vs) fuel rest integral (by omega) nofun
    obtain ⟨c, cs, first, black, opens⟩ := compactElements_eq_cons integral.1 vs
    have text : (compactChars (.arr (v :: vs))).map Letter.char ++ rest =
        .char '[' :: .char c :: (cs.map .char ++ .char ']' :: rest) := by
      simp [compactChars, first]
    rw [first] at followed
    rw [text, parse, skipSpace_cons rfl]
    simp only [skipSpace_cons black, elements_of_ne opens]
    rw [← List.cons_append, ← List.map_cons, followed, written]
  | .obj [], fuel, rest, _, enough, _ => by
    obtain ⟨fuel, rfl⟩ : ∃ k, fuel = k + 1 := ⟨fuel - 1, by simp [compactChars] at enough; omega⟩
    rfl
  | .obj (m :: ms), fuel, rest, integral, enough, _ => by
    have length : (compactChars (.obj (m :: ms))).length =
        (compactMembers (m :: ms)).length + 2 := by simp [compactChars]
    obtain ⟨fuel, rfl⟩ : ∃ k, fuel = k + 2 := ⟨fuel - 2, by omega⟩
    have followed := moreMembers_compactMembers (m :: ms) fuel rest integral (by omega) nofun
    obtain ⟨cs, first⟩ := compactMembers_eq_cons m ms
    have text : (compactChars (.obj (m :: ms))).map Letter.char ++ rest =
        .char '{' :: .char '"' :: (cs.map .char ++ .char '}' :: rest) := by
      simp [compactChars, first]
    rw [first] at followed
    rw [text, parse, skipSpace_cons rfl]
    simp only [skipSpace_cons (l := .char '"') rfl, members_of_ne (c := '"') (by decide)]
    rw [← List.cons_append, ← List.map_cons, followed, written]

theorem moreElements_compactElements : ∀ (vs : List Json) (fuel : Nat) (rest : List Letter),
    IntegralList vs → 2 * (compactElements vs).length ≤ fuel → vs ≠ [] →
    moreElements (fuel + 1) ((compactElements vs).map .char ++ .char ']' :: rest) =
      (writtenList vs, none, some rest)
  | [], _, _, _, _, filled => absurd rfl filled
  | [v], fuel, rest, integral, enough, _ => by
    have positive := length_compactChars_pos integral.1
    rw [compactElements] at enough ⊢
    obtain ⟨fuel, rfl⟩ : ∃ k, fuel = k + 1 := ⟨fuel - 1, by omega⟩
    have own := parse_compactChars v fuel (.char ']' :: rest) integral.1 enough
      (endsNumber_mark (by simp) rest)
    rw [moreElements, own]
    rfl
  | v :: v' :: vs, fuel, rest, integral, enough, _ => by
    rw [compactElements_cons, List.length_append, List.length_cons] at enough
    obtain ⟨fuel, rfl⟩ : ∃ k, fuel = k + 1 := ⟨fuel - 1, by omega⟩
    have text : (compactElements (v :: v' :: vs)).map Letter.char ++ .char ']' :: rest =
        (compactChars v).map .char ++ .char ',' ::
          ((compactElements (v' :: vs)).map .char ++ .char ']' :: rest) := by
      simp [compactElements_cons]
    have own := parse_compactChars v fuel
      (.char ',' :: ((compactElements (v' :: vs)).map .char ++ .char ']' :: rest)) integral.1
      (by omega) (endsNumber_mark (by simp) _)
    have others := moreElements_compactElements (v' :: vs) fuel rest integral.2 (by omega) nofun
    rw [text, moreElements, own]
    dsimp only
    rw [after_comma, others]
    rfl

theorem moreMembers_compactMembers : ∀ (ms : List (String × Json)) (fuel : Nat)
    (rest : List Letter), IntegralMembers ms → 2 * (compactMembers ms).length ≤ fuel → ms ≠ [] →
    moreMembers (fuel + 1) ((compactMembers ms).map .char ++ .char '}' :: rest) =
      (writtenMembers ms, none, some rest)
  | [], _, _, _, _, filled => absurd rfl filled
  | [(key, v)], fuel, rest, integral, enough, _ => by
    rw [compactMembers_singleton, List.length_append, List.length_cons] at enough
    obtain ⟨fuel, rfl⟩ : ∃ k, fuel = k + 1 := ⟨fuel - 1, by omega⟩
    have text : (compactMembers [(key, v)]).map Letter.char ++ .char '}' :: rest =
        (stringChars key).map .char ++ .char ':' ::
          ((compactChars v).map .char ++ .char '}' :: rest) := by
      simp [compactMembers_singleton]
    have own := parse_compactChars v fuel (.char '}' :: rest) integral.1 (by omega)
      (endsNumber_mark (by simp) rest)
    rw [text, moreMembers_stringChars, own]
    rfl
  | (key, v) :: m :: ms, fuel, rest, integral, enough, _ => by
    rw [compactMembers_cons, List.length_append, List.length_append, List.length_cons,
      List.length_cons] at enough
    obtain ⟨fuel, rfl⟩ : ∃ k, fuel = k + 1 := ⟨fuel - 1, by omega⟩
    have text : (compactMembers ((key, v) :: m :: ms)).map Letter.char ++ .char '}' :: rest =
        (stringChars key).map .char ++ .char ':' :: ((compactChars v).map .char ++
          .char ',' :: ((compactMembers (m :: ms)).map .char ++ .char '}' :: rest)) := by
      simp [compactMembers_cons]
    have own := parse_compactChars v fuel
      (.char ',' :: ((compactMembers (m :: ms)).map .char ++ .char '}' :: rest)) integral.1
      (by omega) (endsNumber_mark (by simp) _)
    have others := moreMembers_compactMembers (m :: ms) fuel rest integral.2 (by omega) nofun
    rw [text, moreMembers_stringChars, own]
    dsimp only
    rw [after_comma, others]
    rfl
end

mutual
/-- A canonical value is the value of the document that it is written as, if it is not too deep. -/
theorem toJson_written : ∀ (v : Json) (limit : Nat), Canonical v → depth v ≤ limit →
    toJson limit (written v) = .ok v
  | .null, _, _, _ => rfl
  | .bool _, _, _, _ => rfl
  | .num _, _, _, _ => rfl
  | .str _, _, _, _ => rfl
  | .arr vs, limit, canonical, within => by
    rw [depth] at within
    obtain ⟨limit, rfl⟩ : ∃ k, limit = k + 1 := ⟨limit - 1, by omega⟩
    have values := elementsToJson_written vs limit canonical (by omega)
    rw [written, toJson, if_neg (Nat.succ_ne_zero limit), Nat.add_sub_cancel, values]
    rfl
  | .obj ms, limit, ⟨sorted, canonical⟩, within => by
    rw [depth] at within
    obtain ⟨limit, rfl⟩ : ∃ k, limit = k + 1 := ⟨limit - 1, by omega⟩
    have values := membersToJson_written ms limit canonical (by omega)
    rw [written, toJson, if_neg (Nat.succ_ne_zero limit), Nat.add_sub_cancel, values]
    change Except.ok (object ms) = _
    rw [object, Members.ofList_of_sorted sorted]

theorem elementsToJson_written : ∀ (vs : List Json) (limit : Nat), CanonicalList vs →
    depthList vs ≤ limit → elementsToJson limit (writtenList vs) = .ok vs
  | [], _, _, _ => rfl
  | v :: vs, limit, canonical, within => by
    rw [depthList] at within
    have own := toJson_written v limit canonical.1 (by omega)
    have others := elementsToJson_written vs limit canonical.2 (by omega)
    rw [writtenList, elementsToJson, own, others]
    rfl

theorem membersToJson_written : ∀ (ms : List (String × Json)) (limit : Nat),
    CanonicalMembers ms → depthMembers ms ≤ limit →
    membersToJson limit (writtenMembers ms) = .ok ms
  | [], _, _, _ => rfl
  | (key, v) :: ms, limit, canonical, within => by
    rw [depthMembers] at within
    have own := toJson_written v limit canonical.1 (by omega)
    have others := membersToJson_written ms limit canonical.2 (by omega)
    rw [writtenMembers, membersToJson, own, others]
    rfl
end

end Document

/-- A value that a text may hold: as every reader leaves it, with whole numbers only, and with
containers nested no deeper than allowed. -/
structure Writable (limit : Nat) (v : Json) : Prop where
  canonical : Canonical v
  integral : Integral v
  shallow : depth v ≤ limit

/-- The compact text of a value stands for the value. -/
theorem ofLettersWithin_compact {limit : Nat} {v : Json} (writable : Writable limit v) :
    ofLettersWithin limit (Letter.ofString v.compact) = .ok v := by
  have followed := Document.parse_compactChars v (4 * (compactChars v).length + 3) []
    writable.integral (by omega) endsNumber_nil
  rw [List.append_nil] at followed
  have letters : Letter.ofString v.compact = (compactChars v).map .char := by
    rw [compact, Letter.ofString, String.toList_ofList]
  rw [letters, ofLettersWithin, Document.ofLetters, List.length_map, followed]
  have value := Document.toJson_written v limit writable.canonical writable.shallow
  simp only [value]
  rfl

/-- A writable value is read back from its text. -/
theorem ofString_compact {v : Json} (writable : Writable Document.depthLimit v) :
    ofString v.compact = .ok v := ofLettersWithin_compact writable

end ChatRelay.Json
