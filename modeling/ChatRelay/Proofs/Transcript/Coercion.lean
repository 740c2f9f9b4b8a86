import ChatRelay.Transcript.Arguments

/-!
# What arguments and outputs come to

Arguments and outputs may be values of any kind, and where only objects or only texts may stand they
come to such. What they come to is said here value by value: a text that is the writing of an object
stands for it, any other text for no arguments, or for an output of its own.
-/
namespace ChatRelay

/-- Arguments where only an object may stand. -/
def Arguments.ComeTo : Json → Json.Members → Prop
  | .obj members, object => object = members
  | .str s, object => Json.ofString s = .ok (.obj object) ∨
    (∀ members, Json.ofString s ≠ .ok (.obj members)) ∧ object = []
  | _, object => object = []

/-- Arguments where only a text may stand. -/
def Arguments.Spelled : Json → String → Prop
  | .str s, text => text = s
  | .null, text => text = "\x7b\x7d"
  | v, text => text = v.compact

/-- An output where only an object may stand. -/
def Output.ComesTo : Json → Json.Members → Prop
  | .obj members, object => object = members
  | .str s, object => Json.ofString s = .ok (.obj object) ∨
    (∀ members, Json.ofString s ≠ .ok (.obj members)) ∧ object = [("result", .str s)]
  | v, object => object = [("result", v)]

/-- An output where only a text may stand. -/
def Output.Spelled : Json → String → Prop
  | .str s, text => text = s
  | .null, text => text = ""
  | v, text => text = v.compact

/-- A text either holds an object or is no writing of any. -/
theorem heldObject?_cases (s : String) :
    (∃ members, heldObject? s = some members ∧ Json.ofString s = .ok (.obj members)) ∨
      heldObject? s = none ∧ ∀ members, Json.ofString s ≠ .ok (.obj members) := by
  unfold heldObject?
  split
  · rename_i members read
    exact .inl ⟨members, rfl, read⟩
  · rename_i other
    exact .inr ⟨rfl, other⟩

theorem Arguments.comeTo_members (v : Json) : Arguments.ComeTo v (Arguments.members v) := by
  cases v with
  | str s =>
    rcases heldObject?_cases s with ⟨members, held, read⟩ | ⟨held, other⟩
    · exact .inl (by rw [Arguments.members, held]; exact read)
    · exact .inr ⟨other, by rw [Arguments.members, held]; rfl⟩
  | _ => rfl

theorem Arguments.spelled_text (v : Json) : Arguments.Spelled v (Arguments.text v) := by
  cases v <;> rfl

theorem Output.comesTo_members (v : Json) : Output.ComesTo v (Output.members v) := by
  cases v with
  | str s =>
    rcases heldObject?_cases s with ⟨members, held, read⟩ | ⟨held, other⟩
    · exact .inl (by rw [Output.members, held]; exact read)
    · exact .inr ⟨other, by rw [Output.members, held]; rfl⟩
  | _ => rfl

theorem Output.spelled_text (v : Json) : Output.Spelled v (Output.text v) := by
  cases v <;> rfl

end ChatRelay
