import ChatRelay.Proofs.Transcript.CallIds
import ChatRelay.Proofs.Vendor.Agreement

/-!
# The ids of the calls in a payload

Claude and OpenAI are sent the calls of a conversation with the same ids. If the ids that calls
bring along are distinct, then all are, unless one of them is an id that is made up for another
call. That can happen: nothing keeps a client or a vendor from calling a call `call_1`.
-/
namespace ChatRelay

open Transcript

def Claude.sentCallIds (body : Json) : List String := (sentCalls body).map SentCall.id

def OpenAi.sentCallIds (body : Json) : List String := (sentCalls body).map Prod.fst

theorem Claude.sentCallIds_make (configured : Option String) (budget : Budget) (t : Transcript)
    (r : Request) : sentCallIds (Payload.make configured budget t r).toJson = t.callIds := by
  rw [sentCallIds, sentCalls_make]
  rfl

theorem OpenAi.sentCallIds_make (configured : Option String) (t : Transcript) (r : Request) :
    sentCallIds (Payload.make configured t r).toJson = t.callIds := by
  rw [sentCallIds, sentCalls_make, List.map_map]
  rfl

/-- When the ids of the calls in a payload are distinct. Made-up ids are numbered, and there are no
more of them than calls and outputs without an id. -/
theorem call_ids_nodup_iff {claude openai : Converter} {r : Request} {history items : List Item}
    (isClaude : claude.vendor = .claude) (isOpenAi : openai.vendor = .openai)
    (parses : Input.parse r.input = .ok items)
    (distinct : (ownIds (history ++ items)).Nodup) :
    ∃ forClaude forOpenAi, claude.payload history r = .ok forClaude ∧
      openai.payload history r = .ok forOpenAi ∧
      ((Claude.sentCallIds forClaude).Nodup ↔
        ∀ id ∈ ownIds (history ++ items), id ∉ madeUpIds (history ++ items)) ∧
      ((OpenAi.sentCallIds forOpenAi).Nodup ↔
        ∀ id ∈ ownIds (history ++ items), id ∉ madeUpIds (history ++ items)) ∧
      ∀ id ∈ madeUpIds (history ++ items), ∃ k,
        0 < k ∧ k ≤ (history ++ items).countP Item.lacksId ∧ id = CallLedger.madeUpId k := by
  refine ⟨claude.payloadOfItems (history ++ items) r, openai.payloadOfItems (history ++ items) r,
    ?_, ?_, ?_, ?_, fun id member => ?_⟩
  · simp only [Converter.payload, parses]
  · simp only [Converter.payload, parses]
  · simp only [Converter.payloadOfItems, isClaude, Claude.sentCallIds_make]
    exact nodup_callIds_iff distinct
  · simp only [Converter.payloadOfItems, isOpenAi, OpenAi.sentCallIds_make]
    exact nodup_callIds_iff distinct
  · obtain ⟨k, lower, upper, named⟩ := exists_of_mem_madeUpIdsAfter member
    exact ⟨k, lower, by simpa [CallLedger.empty] using upper, named⟩

/-- A call with an id that looks made up, and one without an id that is answered. -/
def lookups : List Item :=
  [.call ⟨"lookup", .null, some "call_2"⟩, .call ⟨"weather", .null, none⟩,
    .output ⟨none, none, .str "none"⟩, .ofUserText "And now?"]

theorem call_ids_nodup_iff_lookups :
    (ownIds (lookups ++ [])).Nodup ∧
      ∃ forClaude forOpenAi,
        (Converter.ofVendor .claude).payload lookups (.ofInput (.arr [])) = .ok forClaude ∧
        (Converter.ofVendor .openai).payload lookups (.ofInput (.arr [])) = .ok forOpenAi ∧
        ((Claude.sentCallIds forClaude).Nodup ↔
          ∀ id ∈ ownIds (lookups ++ []), id ∉ madeUpIds (lookups ++ [])) ∧
        ((OpenAi.sentCallIds forOpenAi).Nodup ↔
          ∀ id ∈ ownIds (lookups ++ []), id ∉ madeUpIds (lookups ++ [])) ∧
        ∀ id ∈ madeUpIds (lookups ++ []), ∃ k,
          0 < k ∧ k ≤ (lookups ++ []).countP Item.lacksId ∧ id = CallLedger.madeUpId k := by
  have distinct : (ownIds (lookups ++ [])).Nodup := by decide
  exact ⟨distinct, call_ids_nodup_iff rfl rfl rfl distinct⟩

/-- A call with an id, and after it one without. -/
def clashing : List Item :=
  [.call ⟨"lookup", .null, some "call_1"⟩, .call ⟨"weather", .null, none⟩]

/-- The made-up id of the second call is the one that the first brings along. -/
theorem call_ids_clash :
    (ownIds clashing).Nodup ∧
      (∃ body, (Converter.ofVendor .claude).payload clashing (.ofInput (.arr [])) = .ok body ∧
        ¬ (Claude.sentCallIds body).Nodup) ∧
      ∃ body, (Converter.ofVendor .openai).payload clashing (.ofInput (.arr [])) = .ok body ∧
        ¬ (OpenAi.sentCallIds body).Nodup := by
  have sent : callIds (ofItems (clashing ++ [])) = ["call_1", "call_1"] := by decide
  refine ⟨by decide, ⟨_, rfl, ?_⟩, ⟨_, rfl, ?_⟩⟩
  · rw [Converter.payloadOfItems]
    simp only [Converter.ofVendor, Claude.sentCallIds_make, sent]
    decide
  · rw [Converter.payloadOfItems]
    simp only [Converter.ofVendor, OpenAi.sentCallIds_make, sent]
    decide

end ChatRelay
