/-!
This module contains settings: named values as an operator writes them down. A `Snapshot` is a set
of settings in ascending order of their names.
-/

namespace DirectedMarkdown

/-- The value of a setting. `null` asks for the default. -/
inductive Value where
  | flag (value : Bool)
  | text (value : String)
  | null
  deriving DecidableEq, Inhabited

namespace Value

/-- The word for the kind of a value in messages. -/
def kindName : Value → String
  | .flag _ => "boolean"
  | .text _ => "string"
  | .null => "null"

end Value

/-- Settings in ascending order of their names. -/
structure Snapshot where
  entries : List (String × Value)
  sorted : entries.Pairwise (·.1 < ·.1)
  deriving DecidableEq

namespace Snapshot

/-- The snapshot without settings. -/
def empty : Snapshot where
  entries := []
  sorted := List.Pairwise.nil

instance : Inhabited Snapshot := ⟨empty⟩

/-- The number of settings. -/
def size (snapshot : Snapshot) : Nat :=
  snapshot.entries.length

def isEmpty (snapshot : Snapshot) : Bool :=
  snapshot.entries.isEmpty

/-- The names in ascending order. -/
def names (snapshot : Snapshot) : List String :=
  snapshot.entries.map Prod.fst

/-- The value of the setting `name`. -/
def get? (snapshot : Snapshot) (name : String) : Option Value :=
  snapshot.entries.lookup name

/-- Puts a setting in its place among sorted ones. -/
def place (name : String) (value : Value) : List (String × Value) → List (String × Value)
  | [] => [(name, value)]
  | entry :: rest =>
    if name < entry.1 then (name, value) :: entry :: rest
    else if entry.1 = name then (name, value) :: rest
    else entry :: place name value rest

theorem mem_place {name : String} {value : Value} {entries : List (String × Value)}
    {entry : String × Value} (h : entry ∈ place name value entries)
    : entry = (name, value) ∨ entry ∈ entries := by
  induction entries with
  | nil => simp_all [place]
  | cons head rest ih =>
    simp only [place] at h
    split at h
    . simpa using h
    . split at h
      . rcases List.mem_cons.mp h with h | h <;> simp [h]
      . rcases List.mem_cons.mp h with h | h
        . simp [h]
        . rcases ih h with h | h <;> simp [h]

theorem sorted_place (name : String) (value : Value) {entries : List (String × Value)}
    (h : entries.Pairwise (·.1 < ·.1)) : (place name value entries).Pairwise (·.1 < ·.1) := by
  induction entries with
  | nil => simp [place]
  | cons head rest ih =>
    rw [List.pairwise_cons] at h
    simp only [place]
    split
    . rename_i hlt
      refine List.pairwise_cons.mpr ⟨?_, List.pairwise_cons.mpr h⟩
      intro entry hentry
      rcases List.mem_cons.mp hentry with rfl | hmem
      . exact hlt
      . exact String.lt_trans hlt (h.1 entry hmem)
    . rename_i hlt
      split
      . rename_i heq
        refine List.pairwise_cons.mpr ⟨?_, h.2⟩
        intro entry hmem
        simpa [heq] using h.1 entry hmem
      . rename_i hne
        refine List.pairwise_cons.mpr ⟨?_, ih h.2⟩
        intro entry hentry
        rcases mem_place hentry with rfl | hmem
        . refine Classical.byContradiction fun hnot => hne ?_
          exact String.le_antisymm (String.not_lt.mp hlt) (String.not_lt.mp hnot)
        . exact h.1 entry hmem

/-- Gives the setting `name` the value `value`. -/
def insert (snapshot : Snapshot) (name : String) (value : Value) : Snapshot where
  entries := place name value snapshot.entries
  sorted := sorted_place name value snapshot.sorted

/-- Takes the setting `name` away. -/
def erase (snapshot : Snapshot) (name : String) : Snapshot where
  entries := snapshot.entries.filter (·.1 ≠ name)
  sorted := snapshot.sorted.filter _

/-- The settings of both, where the values of `other` win. -/
def merge (snapshot other : Snapshot) : Snapshot :=
  other.entries.foldl (fun acc entry => acc.insert entry.1 entry.2) snapshot

/-- The settings of a list, where the last value of a name counts. -/
def ofList (settings : List (String × Value)) : Snapshot :=
  settings.foldl (fun acc entry => acc.insert entry.1 entry.2) empty

end Snapshot

end DirectedMarkdown
