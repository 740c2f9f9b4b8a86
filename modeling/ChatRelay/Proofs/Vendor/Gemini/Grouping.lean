import ChatRelay.Converter
import ChatRelay.Proofs.Transcript.Answers
import ChatRelay.Proofs.Transcript.Coercion
import ChatRelay.Proofs.Vendor.Gemini.Carriage
import ChatRelay.Proofs.Vendor.SentRuns

/-!
# How Gemini's contents are grouped

The entries of a conversation, each under the role that it is sent under, are cut into maximal runs
of one role, and a content is a run. The system's texts go elsewhere, arguments and answers are
always objects, and an answer lacks a name only where nothing gives it one. All this is said of the
payload key by key.
-/
namespace ChatRelay

/-- The text of an item that speaks for the system. -/
def Item.systemText? : Item → Option String
  | .message .system content | .text (some .system) content =>
    if content.plainText = "" then none else some content.plainText
  | _ => none

theorem Transcript.systemTexts_after (l : CallLedger) (items : List Item) :
    (after l items).systemTexts = items.filterMap Item.systemText? := by
  have spoken (l : CallLedger) (item : Item) :
      (step l item).1.toList.filterMap Utterance.system? = item.systemText?.toList := by
    have ofText (role : Role) (text : String) :
        (utterance? role text).toList.filterMap Utterance.system? =
          if role = .system ∧ text ≠ "" then [text] else [] := by
      unfold utterance?
      by_cases empty : text = ""
      · simp [empty]
      · cases role <;> simp [empty, Utterance.system?]
    cases item with
    | message role content =>
      rw [step, ofText]
      cases role <;> by_cases empty : content.plainText = "" <;> simp [Item.systemText?, empty]
    | text role content =>
      rw [step, ofText]
      rcases role with _ | _ | _ <;> by_cases empty : content.plainText = "" <;>
        simp [Item.systemText?, empty]
    | _ => rfl
  rw [systemTexts_eq, List.filterMap_eq_flatMap_toList (f := Item.systemText?)]
  induction items generalizing l with
  | nil => rfl
  | cons item rest ih => rw [after_cons, List.filterMap_append, spoken, ih, List.flatMap_cons]

namespace Gemini

/-- The role that an entry is sent under. What the system says is sent elsewhere. -/
def roleName? : Entry → Option String
  | .text .system _ => none
  | .text .assistant _ => some "model"
  | .text .user _ | .text .tool _ => some "user"
  | .call _ _ _ => some "model"
  | .result _ _ _ => some "function"

/-- A part as it is sent for an entry. -/
def Sent : Entry → Json → Prop
  | .text _ text, p => p.Holds [("text", .str text)]
  | .call _ name arguments, p => ∃ call args, Arguments.ComeTo arguments args ∧
    p.Holds [("functionCall", call)] ∧ call.Holds [("name", .str name), ("args", .obj args)]
  | .result _ name output, p => ∃ answer response, Output.ComesTo output response ∧
    p.Holds [("functionResponse", answer)] ∧
    answer.Holds [("name", .str name), ("response", .obj response)]

/-- How the contents of a payload are made of the entries of a conversation. -/
structure Grouped (entries : List Entry) (contents : List Json) : Prop where
  /-- One content for each maximal run of one role. -/
  runs : List.Forall₂ (SentRun "parts" Sent) (Runs.cut (placed roleName? entries)) contents
  /-- Contents that follow each other have different roles. -/
  apart : contents.IsChain fun c c' => c.get? "role" ≠ c'.get? "role"
  nonempty : ∀ c ∈ contents, c.elementsAt "parts" ≠ []
  /-- No entry is lost, sent twice, or sent out of order. -/
  kept : List.Forall₂ (SentUnder Sent) (placed roleName? entries) (listedUnder "parts" contents)

/-- Contents that are made of the runs in this way have all the rest. -/
theorem grouped_of_runs {entries : List Entry} {contents : List Json}
    (runs : List.Forall₂ (SentRun "parts" Sent) (Runs.cut (placed roleName? entries)) contents) :
    Grouped entries contents := by
  have other : "parts" ≠ "role" := by decide
  have kept := SentRun.listed other runs
  rw [Runs.flat_cut] at kept
  exact ⟨runs, SentRun.apart runs (Runs.isChain_cut _),
    SentRun.nonempty other runs fun _ cut => Runs.ne_nil_of_mem_cut cut, kept⟩

def role? : Entry → Option Role
  | .text .system _ => none
  | .text .assistant _ => some .model
  | .text .user _ | .text .tool _ => some .user
  | .call _ _ _ => some .model
  | .result _ _ _ => some .function

theorem roleName?_eq (e : Entry) : roleName? e = (role? e).map Role.name := by
  rcases e with ⟨_ | _ | _ | _, text⟩ | _ | _ <;> rfl

theorem name_injective : Function.Injective Role.name := by
  intro role role' same
  cases role <;> cases role' <;> simp_all [Role.name]

def part : Entry → Part
  | .text _ text => .text text
  | .call _ name arguments => .functionCall name (Arguments.members arguments)
  | .result _ name output => .functionResponse name (Output.members output)

theorem sent_part (e : Entry) : Sent e (part e).toJson := by
  cases e with
  | text role text => exact Json.holds_object (by simp)
  | call id name arguments =>
    exact ⟨_, _, Arguments.comeTo_members arguments, Json.holds_object (by simp),
      Json.holds_object (by simp)⟩
  | result id name output =>
    exact ⟨_, _, Output.comesTo_members output, Json.holds_object (by simp),
      Json.holds_object (by simp)⟩

theorem sentRun_ofRun (role : Role) (es : List Entry) :
    SentRun "parts" Sent (role.name, es) (Content.ofRun (role, es.map part)).toJson := by
  refine ⟨_, Json.holds_object (by simp), ?_⟩
  rw [Content.ofRun, List.map_map]
  apply List.forall₂_map_right_iff.2
  apply List.forall₂_same.2
  intro e _
  exact sent_part e

theorem filterMap_part?_ofItems (items : List Item) :
    (Transcript.ofItems items).filterMap part? =
      (placed role? (rendered items)).map (Prod.map id part) := by
  rw [← map_utterance_rendered, List.filterMap_map, placed, List.map_filterMap]
  apply List.filterMap_congr
  intro e _
  rcases e with ⟨_ | _ | _ | _, text⟩ | _ | _ <;> rfl

/-- The contents of a conversation are sent for its runs. -/
theorem sentRuns_contents (items : List Item) :
    List.Forall₂ (SentRun "parts" Sent) (Runs.cut (placed roleName? (rendered items)))
      ((contents (.ofItems items)).map Content.toJson) := by
  rw [funext roleName?_eq, contents_eq_cut, filterMap_part?_ofItems, List.map_map,
    ← List.map_id (Runs.cut (placed _ (rendered items)))]
  exact SentRun.of_cut name_injective sentRun_ofRun role? (rendered items)

/-- A payload with the contents of a conversation under a request's instructions. -/
structure Structured (r : Request) (items : List Item) (body : Json) (contents : List Json) :
    Prop where
  sent : body.get? "contents" = some (.arr contents)
  grouped : Grouped (rendered items) contents
  /-- The instructions and the system's texts, one part each, if there are any. -/
  system : body.get? "systemInstruction" =
    match r.preface ++ items.filterMap Item.systemText? with
    | [] => none
    | texts => some (.obj [("parts", .arr (texts.map fun text => .obj [("text", .str text)]))])
  /-- Whatever the arguments of calls were, they are sent as objects. -/
  args : ∀ c ∈ contents, ∀ p ∈ c.elementsAt "parts", ∀ call, p.get? "functionCall" = some call →
    ∃ members, call.get? "args" = some (.obj members)
  /-- Whatever was answered to calls, it is sent as objects. -/
  responses : ∀ c ∈ contents, ∀ p ∈ c.elementsAt "parts", ∀ answer,
    p.get? "functionResponse" = some answer →
      ∃ members, answer.get? "response" = some (.obj members)
  /-- An answer without a name is that of an output at the same place which nothing names. -/
  named : ∀ first p others answer, contents.flatMap (·.elementsAt "parts") = first ++ p :: others →
    p.get? "functionResponse" = some answer → answer.get? "name" = some (.str "") →
      ∃ before o rest response, items = before ++ .output o :: rest ∧
        List.Forall₂ (fun x => Sent x.2) (placed roleName? (rendered before)) first ∧
        Output.ComesTo o.output response ∧ answer.get? "response" = some (.obj response) ∧
        (CallLedger.empty.past before).Unnamed o

/-- Calls and answers in a part hold objects, and an answer is that of a result. -/
theorem Sent.objects {e : Entry} {p : Json} (sent : Sent e p) :
    (∀ call, p.get? "functionCall" = some call →
      ∃ members, call.get? "args" = some (.obj members)) ∧
    ∀ answer, p.get? "functionResponse" = some answer →
      ∃ id name output response, e = .result id name output ∧ Output.ComesTo output response ∧
        answer.get? "name" = some (.str name) ∧ answer.get? "response" = some (.obj response) := by
  cases e with
  | text role text => simp [sent.under, List.lookup_cons]
  | call id name arguments =>
    obtain ⟨call, args, _, holds, within⟩ := sent
    simp [holds.under, within.under, List.lookup_cons]
  | result id name output =>
    obtain ⟨answer, response, comes, holds, within⟩ := sent
    refine ⟨by simp [holds.under, List.lookup_cons], fun answer' found => ?_⟩
    rw [holds.under, List.lookup_cons_self] at found
    cases found
    exact ⟨id, name, output, response, rfl, comes, by simp [within.under],
      by simp [within.under, List.lookup_cons]⟩

/-- Where an answer without a name comes from: an output at the same place, which nothing names. -/
theorem exists_unnamed {items : List Item} {first others : List Json} {p answer : Json}
    (kept : List.Forall₂ (fun x => Sent x.2) (placed roleName? (rendered items))
      (first ++ p :: others))
    (found : p.get? "functionResponse" = some answer)
    (nameless : answer.get? "name" = some (.str "")) :
    ∃ before o rest response, items = before ++ .output o :: rest ∧
      List.Forall₂ (fun x => Sent x.2) (placed roleName? (rendered before)) first ∧
      Output.ComesTo o.output response ∧ answer.get? "response" = some (.obj response) ∧
      (CallLedger.empty.past before).Unnamed o := by
  obtain ⟨passed, later, split, before, rest⟩ :
      ∃ passed later, placed roleName? (rendered items) = passed ++ later ∧
        List.Forall₂ (fun x => Sent x.2) passed first ∧
        List.Forall₂ (fun x => Sent x.2) later (p :: others) := by
    obtain ⟨passed, later, split, before, rest⟩ := kept.flip.exists_append
    exact ⟨passed, later, split, before.flip, rest.flip⟩
  obtain ⟨x, later, here, _, rfl⟩ := List.forall₂_cons_right_iff.1 rest
  obtain ⟨id, name, output, response, isResult, comes, named, holds⟩ := here.objects.2 _ found
  obtain rfl : name = "" := by simpa using named.symm.trans nameless
  -- the entry of the answer, past those before it that are sent and those beside it that are not
  obtain ⟨earlier, following, entries, rfl, isLater⟩ := List.filterMap_eq_append_iff.1 split
  obtain ⟨skipped, e, _, rfl, unsent, placed, _⟩ := List.filterMap_eq_cons_iff.1 isLater
  obtain ⟨role, _, rfl⟩ := Option.map_eq_some_iff.1 placed
  rw [← List.append_assoc] at entries
  obtain ⟨before', item, rest', items, same, one⟩ := Entry.exists_of_after_eq entries
  obtain rfl : e = .result id "" output := isResult
  obtain ⟨o, rfl, resolved, rfl⟩ := Entry.exists_output_of_ofItem_eq one
  refine ⟨before', o, rest', response, items, ?_, comes, holds, ?_⟩
  · rw [rendered, same, ChatRelay.placed, List.filterMap_append,
      List.filterMap_eq_nil_iff.2 unsent, List.append_nil]
    exact before
  · apply (CallLedger.output_name_eq_empty_iff _ _).1
    rw [resolved]

theorem get?_systemInstruction_make (items : List Item) (r : Request) :
    (Payload.make (.ofItems items) r).toJson.get? "systemInstruction" =
      match r.preface ++ items.filterMap Item.systemText? with
      | [] => none
      | texts =>
        some (.obj [("parts", .arr (texts.map fun text => .obj [("text", .str text)]))]) := by
  rw [get?_systemInstruction, Transcript.ofItems, Transcript.systemTexts_after, ← r.preface_eq]
  cases r.preface ++ items.filterMap Item.systemText? <;> rfl

theorem structured_make (items : List Item) (r : Request) :
    Structured r items (Payload.make (.ofItems items) r).toJson
      ((contents (.ofItems items)).map Content.toJson) := by
  have grouped := grouped_of_runs (sentRuns_contents items)
  -- whatever is listed is sent for some entry
  have listed {c p : Json} (there : c ∈ (contents (.ofItems items)).map Content.toJson)
      (member : p ∈ c.elementsAt "parts") : ∃ e, Sent e p := by
    obtain ⟨run, _, sent⟩ := grouped.runs.exists_of_mem there
    obtain ⟨e, _, here⟩ := (sent.elements (by decide)).exists_of_mem member
    exact ⟨e, here⟩
  refine ⟨get?_contents _, grouped, get?_systemInstruction_make items r, fun c there p member => ?_,
    fun c there p member answer found => ?_, fun first p others answer split found nameless => ?_⟩
  · obtain ⟨e, sent⟩ := listed there member
    exact sent.objects.1
  · obtain ⟨e, sent⟩ := listed there member
    obtain ⟨_, _, _, response, _, _, _, holds⟩ := sent.objects.2 answer found
    exact ⟨response, holds⟩
  · have kept := List.forall₂_map_right_iff.2 (grouped.kept.imp fun _ _ sent => sent.2)
    rw [map_snd_listedUnder, split] at kept
    exact exists_unnamed kept found nameless

/-- Whatever the history and the request, Gemini is sent its contents grouped in this way. -/
theorem payload_contents_structured {c : Converter} {r : Request} {items : List Item}
    (gemini : c.vendor = .gemini) (parses : Input.parse r.input = .ok items)
    (history : List Item) :
    ∃ body contents, c.payload history r = .ok body ∧
      Structured r (history ++ items) body contents := by
  refine ⟨_, _, ?_, structured_make (history ++ items) r⟩
  simp only [Converter.payload, parses, Converter.payloadOfItems, gemini]

/-- An answer that calls for a name of which there is none, beside one that borrows its name. -/
theorem payload_contents_structured_stray :
    ∃ body contents, (Converter.ofVendor .gemini).payload
        [.message .system (.text "Be brief"), .output ⟨some "c0", none, .str "late"⟩,
          .call ⟨"weather", .str "here", some "c1"⟩, .output ⟨some "c2", none, .str "rain"⟩]
        (.ofInput (.str "Thanks")) = .ok body ∧
      Structured (.ofInput (.str "Thanks"))
        ([.message .system (.text "Be brief"), .output ⟨some "c0", none, .str "late"⟩,
          .call ⟨"weather", .str "here", some "c1"⟩, .output ⟨some "c2", none, .str "rain"⟩]
          ++ [.ofUserText "Thanks"]) body contents :=
  payload_contents_structured rfl rfl _

end Gemini
end ChatRelay
