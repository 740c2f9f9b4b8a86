import ChatRelay.Converter
import ChatRelay.Proofs.Json.Magnitude

/-!
# Counts as they are normalized

A count is what the value at the end of its path says: a whole number as it is, and any other number
without its fraction and cut at the largest count. Negative numbers and everything else say nothing.
The total is the sum of two counts or, where that would wrap, the largest count. Only the values at
the mapped paths are looked at, so that a vendor's own total makes no difference.
-/
namespace ChatRelay

namespace CountPaths

/-- The number that a value reports as a count. -/
inductive Reports : Json → ℕ → Prop where
  | whole (n : WholeNumber) (nonneg : 0 ≤ n.val) : Reports (.num (.whole n)) n.val.toNat
  | double (d : Double) (nonneg : 0 ≤ d.value) :
    Reports (.num (.double d)) (min ⌊d.value⌋₊ (2 ^ 64 - 1))

/-- A count is the number that a value reports, and absent if there is none. -/
def Counted (v : Option Json) : Option UInt64 → Prop
  | some count => ∃ w ∈ v, Reports w count.toNat
  | none => ∀ w ∈ v, ∀ n, ¬ Reports w n

/-- What stands at the end of a path in a usage object, if there is one. -/
def standsAt (reported : Option Json) (path : CountPath) : Option Json :=
  reported.bind fun root => valueAt root path

def mapped (paths : CountPaths) : List CountPath :=
  paths.prompt :: paths.completion :: (paths.cacheCreation.toList ++ paths.cacheRead.toList)

/-- A number in the range of counts is kept by the count made of it. -/
theorem toNat_ofNat_of_le {n : ℕ} (le : n ≤ 2 ^ 64 - 1) : (UInt64.ofNat n).toNat = n :=
  UInt64.toNat_ofNat_of_lt' (Nat.lt_of_le_pred (by decide) le)

theorem toNat_countOfDouble (d : Double) : (countOfDouble d).toNat = min d.truncate (2 ^ 64 - 1) :=
  toNat_ofNat_of_le (Nat.min_le_right _ _)

/-- A value counts for the number that it reports. -/
theorem countOf?_eq_some_iff {v : Json} {count : UInt64} :
    countOf? v = some count ↔ Reports v count.toNat := by
  constructor
  · intro counts
    unfold countOf? at counts
    split at counts
    · next n =>
      obtain ⟨nonneg, same⟩ := Option.ite_none_right_eq_some.1 counts
      cases same
      have small : n.val.toNat ≤ 2 ^ 64 - 1 := by
        have := n.upper
        omega
      rw [toNat_ofNat_of_le small]
      exact .whole n nonneg
    · next d =>
      obtain ⟨nonneg, same⟩ := Option.ite_none_right_eq_some.1 counts
      cases same
      rw [d.isNonnegative_iff] at nonneg
      rw [toNat_countOfDouble, d.truncate_of_nonneg nonneg]
      exact .double d nonneg
    · cases counts
  · intro reports
    generalize same : count.toNat = k at reports
    cases reports with
    | whole n nonneg =>
      rw [countOf?, WholeNumber.toUInt64?, if_pos nonneg, ← same, UInt64.ofNat_toNat]
    | double d nonneg =>
      have cut : min d.truncate Usage.largestCount.toNat = count.toNat := by
        rw [same, d.truncate_of_nonneg nonneg]
        rfl
      rw [countOf?, if_pos (d.isNonnegative_iff.2 nonneg), countOfDouble, cut, UInt64.ofNat_toNat]

/-- Whatever is reported is a count. -/
theorem countOf?_eq_none_iff {v : Json} : countOf? v = none ↔ ∀ n, ¬ Reports v n := by
  constructor
  · intro none n reports
    have small : n ≤ 2 ^ 64 - 1 := by
      cases reports with
      | whole n nonneg => have := n.upper; omega
      | double d nonneg => exact Nat.min_le_right _ _
    rw [← toNat_ofNat_of_le small] at reports
    rw [countOf?_eq_some_iff.2 reports] at none
    cases none
  · intro nothing
    refine Option.eq_none_iff_forall_ne_some.2 fun count counts => ?_
    exact nothing _ (countOf?_eq_some_iff.1 counts)

theorem counted_bind (v : Option Json) : Counted v (v.bind countOf?) := by
  cases v with
  | none => exact fun _ impossible => nomatch impossible
  | some w =>
    rw [Option.bind_some]
    cases counts : countOf? w with
    | none =>
      rintro _ ⟨⟩
      exact countOf?_eq_none_iff.1 counts
    | some count => exact ⟨w, rfl, countOf?_eq_some_iff.1 counts⟩

end CountPaths

namespace Usage

/-- The total is the sum of prompt and completion as long as that is a count, and else the largest
count. It never wraps, and it is not below either part. -/
structure Totalled (u : Usage) : Prop where
  exact : u.prompt.toNat + u.completion.toNat < 2 ^ 64 →
    u.total.toNat = u.prompt.toNat + u.completion.toNat
  cut : 2 ^ 64 ≤ u.prompt.toNat + u.completion.toNat → u.total.toNat = 2 ^ 64 - 1
  prompt_le : u.prompt ≤ u.total
  completion_le : u.completion ≤ u.total

/-- The sum of two counts, read as natural numbers. -/
theorem toNat_saturatingAdd (a b : UInt64) :
    (saturatingAdd a b).toNat = min (a.toNat + b.toNat) (2 ^ 64 - 1) := by
  have largest : largestCount.toNat = 2 ^ 64 - 1 := rfl
  unfold saturatingAdd
  split
  · next fits =>
    rw [largest] at fits
    rw [UInt64.toNat_add, Nat.mod_eq_of_lt (by omega), Nat.min_eq_left fits]
  · next large =>
    rw [largest] at large
    rw [largest, Nat.min_eq_right (by omega)]

/-- The cache counts have no part in the total. -/
theorem totalled_of_total {u : Usage} (total : u.total = saturatingAdd u.prompt u.completion) :
    u.Totalled := by
  have sum := toNat_saturatingAdd u.prompt u.completion
  have prompt := u.prompt.toNat_lt
  have completion := u.completion.toNat_lt
  rw [← total] at sum
  refine ⟨fun fits => ?_, fun large => ?_, UInt64.le_iff_toNat_le.2 ?_, UInt64.le_iff_toNat_le.2 ?_⟩
  all_goals omega

end Usage

namespace CountPaths

variable {paths : CountPaths}

/-- The usage that is made of what a vendor reports under a mapping. -/
structure Normalized (paths : CountPaths) (reported : Option Json) (u : Usage) : Prop where
  prompt : ∃ count, Counted (standsAt reported paths.prompt) count ∧ u.prompt = count.getD 0
  completion : ∃ count, Counted (standsAt reported paths.completion) count ∧
    u.completion = count.getD 0
  cacheCreation : Counted (paths.cacheCreation.bind (standsAt reported)) u.cacheCreation
  cacheRead : Counted (paths.cacheRead.bind (standsAt reported)) u.cacheRead
  total : u.Totalled

/-- Usage is made of the values at the mapped paths, whether or not there is a usage object. -/
theorem usage_eq (paths : CountPaths) (reported : Option Json) :
    paths.usage reported =
      { Usage.ofCounts (((standsAt reported paths.prompt).bind countOf?).getD 0)
          (((standsAt reported paths.completion).bind countOf?).getD 0) with
        cacheCreation := (paths.cacheCreation.bind (standsAt reported)).bind countOf?
        cacheRead := (paths.cacheRead.bind (standsAt reported)).bind countOf? } := by
  obtain ⟨prompt, completion, cacheCreation, cacheRead⟩ := paths
  cases reported <;> cases cacheCreation <;> cases cacheRead <;> rfl

/-- Every usage object, whatever it holds, is normalized. -/
theorem normalized_usage (paths : CountPaths) (reported : Option Json) :
    Normalized paths reported (paths.usage reported) := by
  rw [usage_eq]
  exact {
    prompt := ⟨_, counted_bind _, rfl⟩
    completion := ⟨_, counted_bind _, rfl⟩
    cacheCreation := counted_bind _
    cacheRead := counted_bind _
    total := Usage.totalled_of_total rfl }

/-- Only what stands at the mapped paths counts. -/
theorem usage_of_agree {reported reported' : Option Json}
    (agree : ∀ path ∈ paths.mapped, standsAt reported' path = standsAt reported path) :
    paths.usage reported' = paths.usage reported := by
  have cache (path : Option CountPath) (among : ∀ p ∈ path, p ∈ paths.mapped) :
      path.bind (standsAt reported') = path.bind (standsAt reported) := by
    cases path with
    | none => rfl
    | some p => exact agree p (among p rfl)
  rw [usage_eq, usage_eq, agree paths.prompt (by simp [mapped]),
    agree paths.completion (by simp [mapped]),
    cache paths.cacheCreation (by simp +contextual [mapped]),
    cache paths.cacheRead (by simp +contextual [mapped])]

end CountPaths

/-- What a vendor's usage object is normalized to depends on the values at the mapped paths alone,
and each count is the one that stands there. The total is always that of prompt and completion, also
in every response to a vendor's reply. -/
theorem usage_normalized (paths : CountPaths) :
    (∀ reported, paths.Normalized reported (paths.usage reported)) ∧
      (∀ reported reported',
        (∀ path ∈ paths.mapped,
          CountPaths.standsAt reported' path = CountPaths.standsAt reported path) →
        paths.usage reported' = paths.usage reported) ∧
      ∀ (c : Converter) (freshId session : String) (body : Json),
        (c.responseOfBody freshId session body).usage.Totalled := by
  refine ⟨paths.normalized_usage, fun _ _ => CountPaths.usage_of_agree, ?_⟩
  intro c freshId session body
  unfold Converter.responseOfBody
  cases c.vendor with
  | claude => exact (CountPaths.normalized_usage _ _).total
  | openai => exact (CountPaths.normalized_usage _ _).total
  | gemini => exact (CountPaths.normalized_usage _ _).total

/-- As many tokens of the prompt as can be counted and two and a half of the completion: the total
stays at the largest count, whatever the vendor says it is. -/
theorem usage_normalized_largest :
    let paths := OpenAi.Reply.countPaths
    let reported (total : UInt64) : Option Json := some (.obj [
      ("completion_tokens", .num (.double ⟨false, 4612811918334230528⟩)),
      ("prompt_tokens", .ofUInt64 18446744073709551615), ("total_tokens", .ofUInt64 total)])
    (∀ path ∈ paths.mapped,
      CountPaths.standsAt (reported 0) path = CountPaths.standsAt (reported 7) path) ∧
      paths.usage (reported 0) = paths.usage (reported 7) ∧
      paths.usage (reported 7) = ⟨18446744073709551615, 2, 18446744073709551615, none, none⟩ := by
  intro paths reported
  have agree : ∀ path ∈ paths.mapped,
      CountPaths.standsAt (reported 0) path = CountPaths.standsAt (reported 7) path :=
    List.forall_mem_cons.2 ⟨rfl, List.forall_mem_cons.2 ⟨rfl, List.forall_mem_singleton.2 rfl⟩⟩
  exact ⟨agree, (usage_normalized paths).2.1 _ _ agree, by decide +kernel⟩

end ChatRelay
