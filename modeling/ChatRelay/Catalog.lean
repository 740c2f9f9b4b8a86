/-!
# Catalogs

A catalog keeps entries under names, each name once, in the order in which the names first came.
An entry put under a name that is taken replaces the old one at its place.
-/
namespace ChatRelay

/-- Entries under distinct names, in order. -/
structure Catalog (α : Type) where
  entries : List (String × α)
  nodup : (entries.map Prod.fst).Nodup

namespace Catalog

variable {α : Type}

/-- Replaces the entry of a name where it stands, or adds it at the end. -/
def putEntry (name : String) (a : α) : List (String × α) → List (String × α)
  | [] => [(name, a)]
  | (n, b) :: rest => if n = name then (n, a) :: rest else (n, b) :: putEntry name a rest

theorem mem_names_putEntry {name n : String} {a : α} {l : List (String × α)} :
    n ∈ (putEntry name a l).map Prod.fst ↔ n = name ∨ n ∈ l.map Prod.fst := by
  induction l with
  | nil => simp [putEntry]
  | cons e rest ih =>
    obtain ⟨m, b⟩ := e
    by_cases h : m = name
    · simp only [putEntry, h, if_true, List.map_cons, List.mem_cons]
      exact ⟨.inr, fun h' => h'.elim .inl id⟩
    · simp only [putEntry, h, if_false, List.map_cons, List.mem_cons, ih]
      exact ⟨fun h' => h'.elim (fun e => .inr (.inl e)) (fun e => e.elim .inl fun e => .inr (.inr e)),
        fun h' => h'.elim (fun e => .inr (.inl e)) (fun e => e.elim .inl fun e => .inr (.inr e))⟩

theorem nodup_putEntry {name : String} {a : α} {l : List (String × α)}
    (h : (l.map Prod.fst).Nodup) : ((putEntry name a l).map Prod.fst).Nodup := by
  induction l with
  | nil => simp [putEntry]
  | cons e rest ih =>
    obtain ⟨m, b⟩ := e
    rw [List.map_cons, List.nodup_cons] at h
    by_cases hm : m = name
    · simp only [putEntry, hm, if_true, List.map_cons, List.nodup_cons]
      exact ⟨hm ▸ h.1, h.2⟩
    · simp only [putEntry, hm, if_false, List.map_cons, List.nodup_cons]
      exact ⟨fun hin => (mem_names_putEntry.1 hin).elim hm h.1, ih h.2⟩

def empty : Catalog α := ⟨[], List.nodup_nil⟩

def put (c : Catalog α) (name : String) (a : α) : Catalog α :=
  ⟨putEntry name a c.entries, nodup_putEntry c.nodup⟩

def ofList (l : List (String × α)) : Catalog α := l.foldl (fun c e => c.put e.1 e.2) empty

def names (c : Catalog α) : List String := c.entries.map Prod.fst

def size (c : Catalog α) : Nat := c.entries.length

def isEmpty (c : Catalog α) : Bool := c.entries.isEmpty

def find? (c : Catalog α) (name : String) : Option α :=
  (c.entries.find? fun e => e.1 = name).map Prod.snd

def map {β : Type} (f : α → β) (c : Catalog α) : Catalog β :=
  ⟨c.entries.map fun e => (e.1, f e.2), by simpa [Function.comp_def] using c.nodup⟩

@[simp] theorem find?_put_self (c : Catalog α) (name : String) (a : α) :
    (c.put name a).find? name = some a := by
  obtain ⟨entries, nodup⟩ := c
  simp only [put, find?]
  clear nodup
  induction entries with
  | nil => simp [putEntry]
  | cons e rest ih =>
    obtain ⟨n, b⟩ := e
    by_cases same : n = name
    · simp [putEntry, same]
    · simpa [putEntry, same] using ih

theorem find?_put_of_ne (c : Catalog α) {name other : String} (different : other ≠ name) (a : α) :
    (c.put name a).find? other = c.find? other := by
  have apart : ¬ name = other := fun same => different same.symm
  obtain ⟨entries, nodup⟩ := c
  simp only [put, find?]
  clear nodup
  induction entries with
  | nil => simp [putEntry, apart]
  | cons e rest ih =>
    obtain ⟨n, b⟩ := e
    by_cases same : n = name
    · subst same
      simp [putEntry, apart]
    · rw [putEntry, if_neg same]
      by_cases found : n = other
      · simp [found]
      · simpa [found] using ih

@[simp] theorem names_map {β : Type} (f : α → β) (c : Catalog α) :
    (c.map f).names = c.names := by
  simp [names, map, Function.comp_def]

@[simp] theorem find?_map {β : Type} (f : α → β) (c : Catalog α) (name : String) :
    (c.map f).find? name = (c.find? name).map f := by
  simp [find?, map, List.find?_map, Function.comp_def]

/-- Since names are distinct, each entry is the one found under its name. -/
theorem find?_eq_some_iff {c : Catalog α} {name : String} {a : α} :
    c.find? name = some a ↔ (name, a) ∈ c.entries := by
  obtain ⟨entries, nodup⟩ := c
  simp only [find?]
  induction entries with
  | nil => simp
  | cons e rest ih =>
    obtain ⟨n, b⟩ := e
    rw [List.map_cons, List.nodup_cons] at nodup
    by_cases same : n = name
    · subst same
      have absent : (n, a) ∉ rest := fun member => nodup.1 (List.mem_map.2 ⟨_, member, rfl⟩)
      simp [absent, eq_comm]
    · have different : ¬ name = n := fun equal => same equal.symm
      simpa [same, different] using ih nodup.2

/-- Nothing is found under a name exactly if no entry has it. -/
theorem find?_eq_none_iff {c : Catalog α} {name : String} :
    c.find? name = none ↔ name ∉ c.names := by
  simp only [find?, names, Option.map_eq_none_iff, List.find?_eq_none, decide_eq_true_eq,
    List.mem_map, not_exists, not_and]

end Catalog
end ChatRelay
