import ChatRelay.Proofs.Vendor.Reading
import ChatRelay.Reply.Field

/-!
# Fields by their look-up

A null is read as if it were missing, and so is a value of another type than the one asked for. What
a reader finds is therefore what stands under the key, if it is of the right type.
-/
namespace ChatRelay

/-- The first element of the array under a key. There is none if nothing stands under the key, or no
array, or an empty one. -/
def Json.firstAt? (v : Json) (key : String) : Option Json := (v.elementsAt key).head?

/-- The text under a key, unless it is empty. -/
def Json.filledAt? (v : Json) (key : String) : Option String :=
  (v.textAt? key).filter fun s => s ≠ ""

/-- The value under a key, or another one if nothing or a null stands there. -/
def Json.valueAt (v : Json) (key : String) (missing : Json) : Json :=
  match v.get? key with
  | none | some .null => missing
  | some found => found

namespace Reply

variable (node : Json) (key : String)

theorem field?_eq_bind : field? node key = (node.get? key).bind fun v =>
    if v.isNull then none else some v := by
  unfold field?
  cases node.get? key with
  | none => rfl
  | some v => cases v <;> rfl

theorem string?_eq_textAt? : string? node key = node.textAt? key := by
  rw [string?, field?_eq_bind, Json.textAt?]
  cases node.get? key with
  | none => rfl
  | some v => cases v <;> rfl

theorem stringOrEmpty_eq : stringOrEmpty node key = (node.textAt? key).getD "" := by
  rw [stringOrEmpty, string?_eq_textAt?]

theorem given_string? : CallLedger.given (string? node key) = node.filledAt? key := by
  rw [string?_eq_textAt?]
  rfl

theorem getD_field? (missing : Json) :
    (field? node key).getD missing = node.valueAt key missing := by
  rw [field?_eq_bind, Json.valueAt]
  cases node.get? key with
  | none => rfl
  | some v => cases v <;> rfl

theorem object?_eq_bind : object? node key = (node.get? key).bind fun v =>
    if v.kind = .object then some v else none := by
  rw [object?, field?_eq_bind]
  cases node.get? key with
  | none => rfl
  | some v => cases v <;> rfl

theorem elements_eq_elementsAt : elements node key = node.elementsAt key := by
  rw [elements, field?_eq_bind, Json.elementsAt]
  cases node.get? key with
  | none => rfl
  | some v => cases v <;> rfl

theorem head?_elements : (elements node key).head? = node.firstAt? key := by
  rw [elements_eq_elementsAt, Json.firstAt?]

variable {node key}

theorem string?_eq_some_iff {s : String} :
    string? node key = some s ↔ node.get? key = some (.str s) := by
  rw [string?_eq_textAt?, Json.textAt?]
  cases node.get? key with
  | none => simp
  | some v => cases v <;> simp [Json.asString?]

theorem object?_eq_some_iff {v : Json} :
    object? node key = some v ↔ ∃ ms, v = .obj ms ∧ node.get? key = some (.obj ms) := by
  rw [object?_eq_bind]
  cases node.get? key with
  | none => simp
  | some v => cases v <;> simp [Json.kind, eq_comm]

end Reply
end ChatRelay
