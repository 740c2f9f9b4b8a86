import ChatRelay.Proofs.Vendor.Reading
import ChatRelay.Proofs.Vendor.Runs
import ChatRelay.Vendor.Gemini.Payload

/-!
# What Gemini is told

Contents are the maximal runs of one role, so their parts stand in the order of the transcript. The
texts, calls and results that are read back from a payload to Gemini are those of the transcript,
and the system's texts stand apart.
-/
namespace ChatRelay.Gemini

/-- A run as a content. -/
def Content.ofRun (run : Role × List Part) : Content := ⟨run.1, run.2⟩

/-- Pushing a part onto the contents of runs puts it after the runs. -/
theorem push_map_ofRun (runs : List (Role × List Part)) (x : Role × Part) :
    push (runs.map Content.ofRun) x = (Runs.snoc runs x).map Content.ofRun := by
  obtain ⟨role, p⟩ := x
  match runs with
  | [] => rfl
  | [(role', ps)] =>
    have kept : (Content.ofRun (role', ps)).role = role' := rfl
    rw [List.map_singleton, push, kept, Runs.snoc]
    by_cases same : role' = role
    · rw [if_pos same, if_pos same]
      rfl
    · rw [if_neg same, if_neg same]
      rfl
  | run :: run' :: rest =>
    have ih := push_map_ofRun (run' :: rest) (role, p)
    rw [List.map_cons] at ih ⊢
    rw [List.map_cons, push, Runs.snoc, List.map_cons, ih]

/-- The contents of a transcript are the runs of its parts. -/
theorem contents_eq_cut (t : Transcript) :
    contents t = (Runs.cut (t.filterMap part?)).map Content.ofRun :=
  Runs.foldl_eq_map_cut push_map_ofRun _

def speaker? : String → Option Speaker
  | "model" => some .model
  | "user" => some .client
  | _ => none

/-- The parts of a payload, each with the role of its content. -/
def sentParts (body : Json) : List (Option String × Json) :=
  (body.elementsAt "contents").flatMap fun c =>
    (c.elementsAt "parts").map (Prod.mk (c.textAt? "role"))

def sentText? (x : Option String × Json) : Option (Speaker × String) := do
  return (← x.1.bind speaker?, ← x.2.textAt? "text")

/-- The name and the arguments of a call. -/
def sentCall? (x : Option String × Json) : Option (String × Json) := do
  let call ← x.2.get? "functionCall"
  return (← call.textAt? "name", ← call.get? "args")

/-- The name and the answer of a result. -/
def sentResult? (x : Option String × Json) : Option (String × Json) := do
  let result ← x.2.get? "functionResponse"
  return (← result.textAt? "name", ← result.get? "response")

def sentTexts (body : Json) : List (Speaker × String) := (sentParts body).filterMap sentText?

def sentCalls (body : Json) : List (String × Json) := (sentParts body).filterMap sentCall?

def sentResults (body : Json) : List (String × Json) := (sentParts body).filterMap sentResult?

/-- The texts of the system's instruction. -/
def sentSystem (body : Json) : List String :=
  match body.get? "systemInstruction" with
  | some v => (v.elementsAt "parts").filterMap (·.textAt? "text")
  | none => []

/-- A part as it is sent, with the role of its content. -/
def sent (x : Role × Part) : Option String × Json := (some x.1.name, x.2.toJson)

theorem get?_contents (p : Payload) :
    p.toJson.get? "contents" = some (.arr (p.contents.map Content.toJson)) := by
  simp [Payload.toJson, Json.get?_object, List.lookup_append, Json.lookup_optional_of_ne]

theorem get?_parts (c : Content) :
    c.toJson.get? "parts" = some (.arr (c.parts.map Part.toJson)) := by
  simp [Content.toJson, Json.get?_object]

/-- Under the other keys stands what depends on the role alone. -/
theorem get?_of_ne_parts {key : String} (different : key ≠ "parts") {c c' : Content}
    (same : c'.role = c.role) : c'.toJson.get? key = c.toJson.get? key := by
  simp only [Content.toJson, Json.get?_object, same, List.reverse_cons, List.reverse_nil,
    List.nil_append, List.cons_append, Json.lookup_cons_of_ne different]

/-- The parts read from a payload are those of its contents, each under its role. -/
theorem sentParts_toJson (p : Payload) :
    sentParts p.toJson = (p.contents.flatMap fun c => c.parts.map (Prod.mk c.role)).map sent := by
  have ofContent (c : Content) :
      (c.toJson.elementsAt "parts").map (Prod.mk (c.toJson.textAt? "role")) =
        (c.parts.map (Prod.mk c.role)).map sent := by
    have role : c.toJson.textAt? "role" = some c.role.name := by
      simp [Content.toJson, Json.textAt?, Json.get?_object, List.lookup_cons, Json.asString?]
    rw [Json.elementsAt_of_get? (get?_parts c), role, List.map_map, List.map_map]
    rfl
  rw [sentParts, Json.elementsAt_of_get? (get?_contents p), List.flatMap_map, List.map_flatMap]
  exact List.flatMap_congr fun c _ => ofContent c

theorem speaker?_name (role : Role) :
    speaker? role.name =
      match role with | .model => some .model | .user => some .client | .function => none := by
  cases role <;> rfl

/-- The part of an utterance tells what the utterance does, but for the ids of calls. -/
theorem sent?_part (u : Utterance) :
    ((part? u).bind fun x => sentText? (sent x)) = u.said? ∧
      ((part? u).bind fun x => sentCall? (sent x)) = u.call?.map (fun c => (c.name, c.input)) ∧
      ((part? u).bind fun x => sentResult? (sent x)).isSome = u.result?.isSome := by
  rcases u with text | ⟨_ | _, text⟩ | ⟨id, name, arguments⟩ | ⟨id, name, output⟩ <;>
    simp [part?, sent, sentText?, sentCall?, sentResult?, Part.toJson, Json.textAt?,
      Json.get?_object, List.lookup_cons, Json.asString?, speaker?_name, Utterance.said?,
      Utterance.call?, Utterance.result?]

/-- What is read of the parts of a payload is what it is of the transcript's utterances. -/
theorem filterMap_sentParts {α : Type} (f : Option String × Json → Option α) (t : Transcript)
    (r : Request) :
    (sentParts (Payload.make t r).toJson).filterMap f =
      t.filterMap fun u => (part? u).bind fun x => f (sent x) := by
  have parts :
      (contents t).flatMap (fun c => c.parts.map (Prod.mk c.role)) = t.filterMap part? := by
    rw [contents_eq_cut, List.flatMap_map]
    exact Runs.flat_cut _
  rw [sentParts_toJson, List.filterMap_map, Payload.make, parts, List.filterMap_filterMap]
  rfl

variable (t : Transcript) (r : Request)

theorem sentTexts_make : sentTexts (Payload.make t r).toJson = t.filterMap Utterance.said? := by
  rw [sentTexts, filterMap_sentParts]
  exact List.filterMap_congr fun u _ => (sent?_part u).1

theorem sentCalls_make :
    sentCalls (Payload.make t r).toJson =
      (t.filterMap Utterance.call?).map fun c => (c.name, c.input) := by
  rw [sentCalls, filterMap_sentParts, List.map_filterMap]
  exact List.filterMap_congr fun u _ => (sent?_part u).2.1

theorem length_sentResults_make :
    (sentResults (Payload.make t r).toJson).length = (t.filterMap Utterance.result?).length := by
  rw [sentResults, filterMap_sentParts, List.length_filterMap_eq_countP,
    List.length_filterMap_eq_countP]
  exact List.countP_congr fun u _ => by rw [(sent?_part u).2.2]

theorem get?_systemInstruction :
    (Payload.make t r).toJson.get? "systemInstruction" =
      Payload.systemInstruction (r.instructions?.toList ++ t.systemTexts) := by
  simp [Payload.make, Payload.toJson, Json.get?_object, List.lookup_append, List.lookup_cons,
    Json.lookup_optional_of_ne]

theorem sentSystem_make :
    sentSystem (Payload.make t r).toJson = r.instructions?.toList ++ t.systemTexts := by
  rw [sentSystem, get?_systemInstruction]
  cases r.instructions?.toList ++ t.systemTexts with
  | nil => rfl
  | cons text texts =>
    have parts (texts : List String) :
        (texts.map fun s => (Part.text s).toJson).filterMap (·.textAt? "text") = texts := by
      rw [List.filterMap_map]
      refine (List.filterMap_congr fun s _ => ?_).trans List.filterMap_some
      simp [Part.toJson, Json.textAt?, Json.get?_object, Json.asString?]
    rw [Payload.systemInstruction]
    · simp only [Json.elementsAt, Json.get?_object, Json.elements, List.reverse_singleton,
        List.lookup_cons_self, Option.map_some, Option.getD_some]
      exact parts (text :: texts)
    · simp

end ChatRelay.Gemini
