/-!
This module contains property lists: maps from names to values that keep the order in which their
names were first inserted.
-/

namespace DirectedMarkdown

/-- An ordered map. Each name has one value. -/
structure PropertyList where
  entries : List (String × String)
  nodup : (entries.map Prod.fst).Nodup
  deriving DecidableEq

namespace PropertyList

/-- The list without entries. -/
def empty : PropertyList where
  entries := []
  nodup := List.nodup_nil

instance : Inhabited PropertyList := ⟨empty⟩

/-- The names in the order of their first insertion. -/
def keys (list : PropertyList) : List String :=
  list.entries.map Prod.fst

/-- The number of entries. -/
def size (list : PropertyList) : Nat :=
  list.entries.length

def isEmpty (list : PropertyList) : Bool :=
  list.entries.isEmpty

/-- The value of `key`. -/
def get? (list : PropertyList) (key : String) : Option String :=
  list.entries.lookup key

def contains (list : PropertyList) (key : String) : Bool :=
  (list.get? key).isSome

/-- Puts `value` in the place of the value of `key`, or a new entry at the end. -/
def upsert (key value : String) : List (String × String) → List (String × String)
  | [] => [(key, value)]
  | entry :: rest =>
    if entry.1 = key then (key, value) :: rest else entry :: upsert key value rest

theorem keys_upsert (key value : String) (entries : List (String × String))
    : (upsert key value entries).map Prod.fst
        = if key ∈ entries.map Prod.fst then entries.map Prod.fst
          else entries.map Prod.fst ++ [key] := by
  induction entries with
  | nil => simp [upsert]
  | cons entry rest ih =>
    by_cases h : entry.1 = key
    . simp [upsert, h]
    . have : ¬key = entry.1 := fun e => h e.symm
      by_cases hrest : key ∈ rest.map Prod.fst <;> simp_all [upsert]

theorem nodup_upsert (key value : String) {entries : List (String × String)}
    (h : (entries.map Prod.fst).Nodup) : ((upsert key value entries).map Prod.fst).Nodup := by
  rw [keys_upsert]
  split
  . assumption
  . rename_i hkey
    rw [List.nodup_append]
    refine ⟨h, by simp, ?_⟩
    intro a ha b hb hab
    simp_all

/-- Gives `key` the value `value`. A known name keeps its place, a new one comes last. -/
def insert (list : PropertyList) (key value : String) : PropertyList where
  entries := upsert key value list.entries
  nodup := nodup_upsert key value list.nodup

/-- Gives `key` the value `value` and answers with the value that it had before. -/
def exchange (list : PropertyList) (key value : String) : Option String × PropertyList :=
  (list.get? key, list.insert key value)

/-- Inserts the entries of `extra` in order, so that the values of `extra` win. -/
def merge (list extra : PropertyList) : PropertyList :=
  extra.entries.foldl (fun acc entry => acc.insert entry.1 entry.2) list

/-- Inserts the pairs in order into an empty list. -/
def ofList (pairs : List (String × String)) : PropertyList :=
  pairs.foldl (fun acc entry => acc.insert entry.1 entry.2) empty

end PropertyList

end DirectedMarkdown
