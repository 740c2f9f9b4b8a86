import ChatRelay.Json.Decode
import ChatRelay.Proofs.Json.Records

/-!
# Documents and their values

A value says less than the text it stands in: of members with one key only the last is left. Here
is what is known of a document whose value is known, and what it means that members do not repeat
certain keys. Whoever allows more levels of containers gets the same value.
-/
namespace ChatRelay.Json

open Reader (bind_eq_ok finish_eq_ok map_eq_ok)

/-- A document is read in a value at every depth. -/
theorem Place.InValue.enter_eq {p : Place} (inside : p.InValue) :
    p.enter = .ok { p with depth := p.depth - 1 } := by
  obtain ⟨origin, depth⟩ := p
  cases origin with
  | text => exact absurd rfl inside
  | value => rfl
  | setAside => rfl

/-- Members in any order, of which no two have the same key among some. -/
def Members.Once (keys : List String) (ms : List (String × Json)) : Prop :=
  ms.Pairwise fun m m' => m.1 ∈ keys → m'.1 ≠ m.1

/-- What stands under a key that is not repeated is not overwritten. -/
theorem Members.Once.find?_ofList {keys : List String} {ms : List (String × Json)}
    (once : Members.Once keys ms) {key : String} {v : Json} (among : key ∈ keys)
    (member : (key, v) ∈ ms) : Members.find? key (Members.ofList ms) = some v := by
  rw [Members.find?_ofList]
  induction ms with
  | nil => cases member
  | cons m rest ih =>
    obtain ⟨first, once⟩ := List.pairwise_cons.1 once
    rw [List.reverse_cons, List.lookup_append]
    rcases List.mem_cons.1 member with rfl | later
    · have others : rest.reverse.lookup key = none := by
        refine List.lookup_eq_none_iff.2 fun m later => ?_
        exact bne_iff_ne.2 (first m (List.mem_reverse.1 later) among).symm
      rw [others]
      simp
    · rw [ih once later]
      rfl

namespace Document

theorem elementsToJson_cons_eq_ok {d : Document} {rest : List Document} {n : Nat}
    {vs : List Json} : elementsToJson n (d :: rest) = .ok vs ↔
      ∃ v others, d.toJson n = .ok v ∧ elementsToJson n rest = .ok others ∧ vs = v :: others := by
  rw [elementsToJson]
  constructor
  · intro values
    obtain ⟨v, value, values⟩ := bind_eq_ok.1 values
    obtain ⟨others, values, same⟩ := bind_eq_ok.1 values
    exact ⟨v, others, value, values, (Except.ok.inj same).symm⟩
  · rintro ⟨v, others, value, values, rfl⟩
    rw [value, values]
    rfl

theorem membersToJson_cons_eq_ok {key : Token String} {d : Document}
    {rest : List (Token String × Document)} {n : Nat} {ms : List (String × Json)} :
    membersToJson n ((key, d) :: rest) = .ok ms ↔
      ∃ name v others, key.read = .ok name ∧ d.toJson n = .ok v ∧
        membersToJson n rest = .ok others ∧ ms = (name, v) :: others := by
  rw [membersToJson]
  constructor
  · intro values
    obtain ⟨name, named, values⟩ := bind_eq_ok.1 values
    obtain ⟨v, value, values⟩ := bind_eq_ok.1 values
    obtain ⟨others, values, same⟩ := bind_eq_ok.1 values
    exact ⟨name, v, others, named, value, values, (Except.ok.inj same).symm⟩
  · rintro ⟨name, v, others, named, value, values, rfl⟩
    rw [named, value, values]
    rfl

mutual
/-- A value that is found within some levels of containers is found within more. -/
theorem toJson_mono : ∀ (d : Document) (n m : Nat) (v : Json), n ≤ m → d.toJson n = .ok v →
    d.toJson m = .ok v
  | .null, _, _, _, _, same => same
  | .bool _, _, _, _, _, same => same
  | .num _, _, _, _, _, same => same
  | .str _, _, _, _, _, same => same
  | .absent, _, _, _, _, same => same
  | .broken _, _, _, _, _, same => same
  | .misplaced _, _, _, _, _, same => same
  | .value _, _, _, _, _, same => same
  | .arr elems ending, n, m, v, more, reads => by
    rw [toJson] at reads ⊢
    split at reads
    · cases reads
    · obtain ⟨vs, values, finished⟩ := bind_eq_ok.1 reads
      rw [if_neg (by omega), elementsToJson_mono elems (n - 1) (m - 1) vs (by omega) values]
      exact finished
  | .obj members ending, n, m, v, more, reads => by
    rw [toJson] at reads ⊢
    split at reads
    · cases reads
    · obtain ⟨ms, values, finished⟩ := bind_eq_ok.1 reads
      rw [if_neg (by omega), membersToJson_mono members (n - 1) (m - 1) ms (by omega) values]
      exact finished

theorem elementsToJson_mono : ∀ (elems : List Document) (n m : Nat) (vs : List Json), n ≤ m →
    elementsToJson n elems = .ok vs → elementsToJson m elems = .ok vs
  | [], _, _, _, _, values => values
  | d :: rest, n, m, vs, more, values => by
    obtain ⟨v, others, value, tail, rfl⟩ := elementsToJson_cons_eq_ok.1 values
    exact elementsToJson_cons_eq_ok.2 ⟨v, others, toJson_mono d n m v more value,
      elementsToJson_mono rest n m others more tail, rfl⟩

theorem membersToJson_mono : ∀ (members : List (Token String × Document)) (n m : Nat)
    (ms : List (String × Json)), n ≤ m → membersToJson n members = .ok ms →
    membersToJson m members = .ok ms
  | [], _, _, _, _, values => values
  | (key, d) :: rest, n, m, ms, more, values => by
    obtain ⟨name, v, others, named, value, tail, rfl⟩ := membersToJson_cons_eq_ok.1 values
    exact membersToJson_cons_eq_ok.2 ⟨name, v, others, named, toJson_mono d n m v more value,
      membersToJson_mono rest n m others more tail, rfl⟩
end

/-- The documents of a value, of which no one meets a fault within some levels of containers. -/
inductive HasValue (n : Nat) : Document → Json → Prop where
  | null : HasValue n .null .null
  | bool (b : Bool) : HasValue n (.bool b) (.bool b)
  | num {token : Token Number} {x : Number} (read : token.read = .ok x) :
      HasValue n (.num token) (.num x)
  | str {token : Token String} {s : String} (read : token.read = .ok s) :
      HasValue n (.str token) (.str s)
  | arr {elems : List Document} {vs : List Json}
      (values : elementsToJson (n - 1) elems = .ok vs) : HasValue n (.arr elems none) (.arr vs)
  | obj {members : List (Token String × Document)} {ms : List (String × Json)}
      (values : membersToJson (n - 1) members = .ok ms) :
      HasValue n (.obj members none) (.obj (Members.ofList ms))
  | value (v : Json) : HasValue n (.value v) v

/-- Inversion: what a document must be like for its value to be known. -/
theorem hasValue_of_toJson {d : Document} {n : Nat} {v : Json} (reads : d.toJson n = .ok v) :
    HasValue n d v := by
  cases d with
  | null =>
    cases reads
    exact .null
  | bool b =>
    cases reads
    exact .bool b
  | num token =>
    obtain ⟨x, read, rfl⟩ := map_eq_ok.1 reads
    exact .num read
  | str token =>
    obtain ⟨s, read, rfl⟩ := map_eq_ok.1 reads
    exact .str read
  | arr elems ending =>
    rw [toJson] at reads
    split at reads
    · cases reads
    · obtain ⟨vs, values, finished⟩ := bind_eq_ok.1 reads
      obtain ⟨rfl, rfl⟩ := finish_eq_ok finished
      exact .arr values
  | obj members ending =>
    rw [toJson] at reads
    split at reads
    · cases reads
    · obtain ⟨ms, values, finished⟩ := bind_eq_ok.1 reads
      obtain ⟨rfl, rfl⟩ := finish_eq_ok finished
      exact .obj values
  | value w =>
    cases reads
    exact .value v
  | absent => cases reads
  | broken fault => cases reads
  | misplaced d => cases reads

theorem string_of_toJson {p : Place} {d : Document} {n : Nat} {s : String}
    (value : d.toJson n = .ok (.str s)) : Reader.string p d = .ok s := by
  cases hasValue_of_toJson value with
  | str read => exact Reader.liftText_eq_ok.2 read
  | value => rfl

/-- No two members have the same key among some. -/
def Apart (keys : List String) (members : List (Token String × Document)) : Prop :=
  members.Pairwise fun m m' => ∀ key ∈ keys, m.1.read = .ok key → m'.1.read ≠ .ok key

/-- Each member of a value comes from a member of the document under the same key. -/
theorem exists_of_mem_values {members : List (Token String × Document)} {n : Nat}
    {ms : List (String × Json)} (values : membersToJson n members = .ok ms) :
    ∀ m ∈ ms, ∃ m' ∈ members, m'.1.read = .ok m.1 := by
  induction members generalizing ms with
  | nil =>
    cases values
    exact nofun
  | cons m' rest ih =>
    obtain ⟨key, d⟩ := m'
    obtain ⟨name, v, others, named, -, tail, rfl⟩ := membersToJson_cons_eq_ok.1 values
    intro m member
    rcases List.mem_cons.1 member with rfl | among
    · exact ⟨(key, d), List.mem_cons_self, named⟩
    · obtain ⟨m', member', named'⟩ := ih tail m among
      exact ⟨m', List.mem_cons_of_mem _ member', named'⟩

/-- Where keys are not repeated, they are not repeated among the values either. -/
theorem Apart.values {keys : List String} {members : List (Token String × Document)}
    (apart : Apart keys members) {n : Nat} {ms : List (String × Json)}
    (values : membersToJson n members = .ok ms) : Members.Once keys ms := by
  induction members generalizing ms with
  | nil =>
    cases values
    exact .nil
  | cons m' rest ih =>
    obtain ⟨key, d⟩ := m'
    obtain ⟨first, apart⟩ := List.pairwise_cons.1 apart
    obtain ⟨name, v, others, named, -, tail, rfl⟩ := membersToJson_cons_eq_ok.1 values
    refine .cons ?_ (ih apart tail)
    intro m member among same
    obtain ⟨m', member', named'⟩ := exists_of_mem_values tail m member
    rw [same] at named'
    exact first m' member' name among named named'

end Document
end ChatRelay.Json
