import ChatRelay.Converter
import ChatRelay.Proofs.Reply.Field
import Mathlib

/-!
# When a response is a failed one

A reply reports a failure by an error of its own, by a finish signal that speaks of one or, with
Gemini alone, by the reason why a prompt without candidates was blocked. This module says where in a
reply these signs stand, without regard to how leniently it is read: a response has failed if there
is one of them, and is complete if there is none.
-/
namespace ChatRelay

open Json (Members)

namespace Text

/-- A part of a text is a word in small letters, each as it is or as a capital. -/
def Spells (part word : List Char) : Prop := List.Forall₂ (fun c l => c = l ∨ c = l.toUpper) part word

/-- A word stands in a text, in whatever case. -/
def HoldsInAnyCase (word s : String) : Prop := ∃ part, part <:+: s.toList ∧ Spells part word.toList

theorem occursIn_iff {needle cs : List Char} : occursIn needle cs = true ↔ needle <:+: cs := by
  induction cs with
  | nil => simp [occursIn]
  | cons c rest ih =>
    rw [occursIn, Bool.or_eq_true, List.isPrefixOf_iff_prefix, ih, List.infix_cons_iff]

/-- What becomes a small letter is this letter or its capital. -/
theorem toLower_eq_iff {c l : Char} (small : l.isLower = true) :
    c.toLower = l ↔ c = l ∨ c = l.toUpper := by
  have kept : l.toLower = l := Char.toLower_eq_of_not_isUpper (Char.not_isUpper_of_isLower small)
  constructor
  · rintro rfl
    by_cases capital : c.isUpper = true
    · right
      rw [Char.toUpper_toLower_eq_toUpper,
        Char.toUpper_eq_of_not_isLower (Char.not_isLower_of_isUpper capital)]
    · exact .inl (Char.toLower_eq_of_not_isUpper capital).symm
  · rintro (rfl | rfl)
    · exact kept
    · rw [Char.toLower_toUpper_eq_toLower, kept]

theorem map_toLower_eq_iff {part word : List Char} (small : ∀ l ∈ word, l.isLower = true) :
    part.map Char.toLower = word ↔ Spells part word := by
  unfold Spells
  induction part generalizing word with
  | nil => simp [eq_comm]
  | cons c rest ih =>
    cases word with
    | nil => simp
    | cons l letters =>
      obtain ⟨first, others⟩ := List.forall_mem_cons.1 small
      rw [List.map_cons, List.cons.injEq, List.forall₂_cons, toLower_eq_iff first, ih others]

/-- Looking for a small word in the lower case of a text finds it in any case. -/
theorem occursIn_asciiLower_iff {word : String} (small : ∀ l ∈ word.toList, l.isLower = true)
    (s : String) : occursIn word.toList (asciiLower s).toList = true ↔ HoldsInAnyCase word s := by
  rw [occursIn_iff, asciiLower, String.toList_ofList, List.infix_map_iff]
  refine exists_congr fun part => and_congr_right fun _ => ?_
  rw [eq_comm, map_toLower_eq_iff small]

end Text

/-- There is no candidate, and the feedback on the prompt gives a reason why it was blocked. -/
structure Gemini.Blocked (body : Json) : Prop where
  noCandidate : body.firstAt? "candidates" = none
  because : ∃ feedback reason, body.get? "promptFeedback" = some (.obj feedback) ∧
    Members.find? "blockReason" feedback = some (.str reason)

namespace Vendor

/-- What a vendor gives as the reason for which the model stopped. -/
def finishSignal? (body : Json) : Vendor → Option Json
  | .claude => body.get? "stop_reason"
  | .openai => (body.firstAt? "choices").bind (·.get? "finish_reason")
  | .gemini => (body.firstAt? "candidates").bind (·.get? "finishReason")

/-- The reply of a vendor has a sign of failure. -/
inductive ReportsFailure (body : Json) (v : Vendor) : Prop where
  | error {e : Json} (found : body.get? "error" = some e) (given : e ≠ .null)
  | signal {s : String} (found : v.finishSignal? body = some (.str s))
      (speaks : Text.HoldsInAnyCase "error" s)
  | blocked (gemini : v = .gemini) (blocked : Gemini.Blocked body)

end Vendor

namespace Reply

theorem carriesError_iff {body : Json} :
    carriesError body = true ↔ ∃ e, body.get? "error" = some e ∧ e ≠ .null := by
  rw [carriesError, field?, Option.isSome_iff_exists]
  refine exists_congr fun e => ?_
  rw [Option.filter_eq_some_iff]
  cases e <;> simp [Json.isNull]

end Reply

namespace FinishSignal

theorem isError_iff {s : String} : isError s = true ↔ Text.HoldsInAnyCase "error" s :=
  Text.occursIn_asciiLower_iff (by simp) s

theorem status_eq_failed_iff {signal : Option String} :
    status signal = .failed ↔ ∃ s, signal = some s ∧ isError s = true := by
  cases signal with
  | none => simp [status]
  | some s => simp [status]

end FinishSignal

theorem Gemini.Reply.isSome_blocked?_iff {body : Json} :
    (blocked? body).isSome = true ↔ Blocked body := by
  have nothing : (ChatRelay.Reply.elements body "candidates").isEmpty = true ↔
      body.firstAt? "candidates" = none := by
    rw [← ChatRelay.Reply.head?_elements, List.isEmpty_iff, List.head?_eq_none_iff]
  have reason : (blockReason? body).isSome = true ↔ ∃ feedback reason,
      body.get? "promptFeedback" = some (.obj feedback) ∧
        Members.find? "blockReason" feedback = some (.str reason) := by
    rw [Option.isSome_iff_exists, blockReason?]
    simp only [Option.bind_eq_some_iff, ChatRelay.Reply.object?_eq_some_iff,
      ChatRelay.Reply.string?_eq_some_iff]
    constructor
    · rintro ⟨reason, _, ⟨feedback, rfl, found⟩, because⟩
      exact ⟨feedback, reason, found, because⟩
    · rintro ⟨feedback, reason, found, because⟩
      exact ⟨reason, _, ⟨feedback, rfl, found⟩, because⟩
  unfold blocked?
  split
  · next empty => exact reason.trans ⟨fun because => ⟨nothing.1 empty, because⟩, (·.because)⟩
  · next some => exact ⟨nofun, fun blocked => absurd (nothing.2 blocked.noCandidate) some⟩

namespace Vendor

open Reply

variable {body : Json} {v : Vendor}

/-- A reply reports a failure otherwise than by a blocked prompt. -/
def Stops (body : Json) (v : Vendor) : Prop :=
  (∃ e, body.get? "error" = some e ∧ e ≠ .null) ∨
    ∃ s, v.finishSignal? body = some (.str s) ∧ Text.HoldsInAnyCase "error" s

/-- A failure is reported by a reason to stop or by a blocked prompt. -/
theorem reportsFailure_iff :
    v.ReportsFailure body ↔ v.Stops body ∨ v = .gemini ∧ Gemini.Blocked body := by
  constructor
  · rintro (⟨found, given⟩ | ⟨found, speaks⟩ | ⟨gemini, blocked⟩)
    · exact .inl (.inl ⟨_, found, given⟩)
    · exact .inl (.inr ⟨_, found, speaks⟩)
    · exact .inr ⟨gemini, blocked⟩
  · rintro ((⟨e, found, given⟩ | ⟨s, found, speaks⟩) | ⟨gemini, blocked⟩)
    · exact .error found given
    · exact .signal found speaks
    · exact .blocked gemini blocked

/-- The error of a reply and else its finish signal decide on the status. -/
theorem status_eq_failed_iff {finish : Option String}
    (reads : ∀ s, finish = some s ↔ v.finishSignal? body = some (.str s)) :
    FinishSignal.status (if carriesError body then some "error" else finish) = .failed ↔
      v.Stops body := by
  rw [Stops, ← carriesError_iff, FinishSignal.status_eq_failed_iff]
  simp only [← FinishSignal.isError_iff, ← reads]
  cases carriesError body with
  | true => simpa using (by decide : FinishSignal.isError "error" = true)
  | false => simp

/-- Only an object can report a failure. -/
theorem ReportsFailure.exists_obj (reports : v.ReportsFailure body) : ∃ ms, body = .obj ms := by
  cases body with
  | obj ms => exact ⟨ms, rfl⟩
  | _ =>
    rcases reports with ⟨found, -⟩ | ⟨found, -⟩ | ⟨-, -, because⟩
    · cases found
    · cases v <;> cases found
    · obtain ⟨_, _, found, -⟩ := because
      cases found

end Vendor

theorem Converter.status_eq_failed_iff (c : Converter) (freshId session : String) (body : Json) :
    (c.responseOfBody freshId session body).status = .failed ↔ c.vendor.ReportsFailure body := by
  have first {array field : String} (s : String) :
      ((Reply.elements body array).head?.bind fun v => Reply.string? v field) = some s ↔
        (body.firstAt? array).bind (·.get? field) = some (.str s) := by
    simp only [Reply.head?_elements, Option.bind_eq_some_iff, Reply.string?_eq_some_iff]
  rw [Vendor.reportsFailure_iff]
  unfold responseOfBody
  cases c.vendor with
  | claude =>
    rw [or_iff_left (by simp)]
    exact Vendor.status_eq_failed_iff fun s => Reply.string?_eq_some_iff
  | openai =>
    rw [or_iff_left (by simp)]
    exact Vendor.status_eq_failed_iff first
  | gemini =>
    rw [eq_self, true_and, ← Gemini.Reply.isSome_blocked?_iff]
    dsimp only [Gemini.Reply.response, Gemini.Reply.status]
    cases Gemini.Reply.blocked? body with
    | some reason => simp
    | none =>
      rw [or_iff_left (by simp)]
      exact Vendor.status_eq_failed_iff first

/-- A response has failed exactly if the reply has one of the signs of failure. Otherwise it is
complete, and so it is if the reply is no object. -/
theorem status_of_reply (c : Converter) (freshId session : String) (body : Json) :
    ((c.responseOfBody freshId session body).status = .failed ↔ c.vendor.ReportsFailure body) ∧
      ((c.responseOfBody freshId session body).status = .completed ↔
        ¬ c.vendor.ReportsFailure body) ∧
      ((∀ ms, body ≠ .obj ms) → (c.responseOfBody freshId session body).status = .completed) := by
  have failed := c.status_eq_failed_iff freshId session body
  have completed : (c.responseOfBody freshId session body).status = .completed ↔
      ¬ c.vendor.ReportsFailure body := by
    rw [← failed]
    cases (c.responseOfBody freshId session body).status <;> simp
  refine ⟨failed, completed, fun noObject => completed.2 fun reports => ?_⟩
  obtain ⟨ms, object⟩ := reports.exists_obj
  exact noObject ms object

/-- A list is no object, whatever stands in it. -/
theorem status_of_reply_list (c : Converter) :
    (c.responseOfBody "resp_1" "s" (.arr [.obj [("error", .str "overloaded")]])).status =
      .completed :=
  (status_of_reply c "resp_1" "s" _).2.2 (by simp)

/-- An error in capitals is a sign of failure. The reason for blocking a prompt is none if there is
a candidate. -/
example :
    ((Converter.ofVendor .gemini).responseOfBody "r" "s" (.obj [
      ("candidates", .arr [.obj [("finishReason", .str "SAFETY_ERROR")]])])).status = .failed ∧
    ((Converter.ofVendor .gemini).responseOfBody "r" "s" (.obj [
      ("candidates", .arr [.null]),
      ("promptFeedback", .obj [("blockReason", .str "SAFETY")])])).status = .completed := by
  decide

end ChatRelay
