import DirectedMarkdown.Proofs.List.Lookup
import DirectedMarkdown.PropertyList
import Mathlib.Data.List.Induction

/-!
This module contains the values in property lists that are made of others: the value that was put in
last counts.
-/

namespace DirectedMarkdown.PropertyList

theorem lookup_upsert (key value other : String) (entries : List (String × String))
    : (upsert key value entries).lookup other
        = if other = key then some value else entries.lookup other := by
  induction entries with
  | nil => rw [upsert, lookup_cons_eq_if]
  | cons entry rest ih =>
    unfold upsert
    split
    . next heq =>
      rw [lookup_cons_eq_if, lookup_cons_eq_if, heq]
      split <;> rfl
    . next hne =>
      rw [lookup_cons_eq_if, lookup_cons_eq_if, ih]
      by_cases hother : other = entry.1 <;> simp [hother, hne]

theorem get?_insert (list : PropertyList) (key value other : String)
    : (list.insert key value).get? other
        = if other = key then some value else list.get? other :=
  lookup_upsert key value other list.entries

theorem mem_keys_iff {list : PropertyList} {key : String}
    : key ∈ list.keys ↔ ∃ value, list.get? key = some value := by
  rw [← Option.ne_none_iff_exists', get?, ne_eq, lookup_eq_none_iff_notMem, Decidable.not_not, keys]

theorem get?_foldl_insert (list : PropertyList) (pairs : List (String × String)) (key : String)
    : (pairs.foldl (fun acc entry => acc.insert entry.1 entry.2) list).get? key
        = (pairs.reverse.lookup key).or (list.get? key) := by
  induction pairs using List.reverseRecOn with
  | nil => rfl
  | append_singleton pairs pair ih =>
    rw [List.foldl_append, List.foldl_cons, List.foldl_nil, get?_insert, ih]
    rw [List.reverse_append, List.reverse_singleton, List.singleton_append, lookup_cons_eq_if]
    split <;> rfl

/-- Of the pairs with one key, the last one counts. -/
theorem get?_ofList (pairs : List (String × String)) (key : String)
    : (ofList pairs).get? key = pairs.reverse.lookup key := by
  unfold ofList
  rw [get?_foldl_insert]
  exact Option.or_none

/-- The values of the second list win. -/
theorem get?_merge (list extra : PropertyList) (key : String)
    : (list.merge extra).get? key = (extra.get? key).or (list.get? key) := by
  have hreverse : extra.entries.reverse.lookup key = extra.entries.lookup key := by
    symm
    exact lookup_eq_of_perm (List.reverse_perm _).symm extra.nodup key
  unfold merge
  rw [get?_foldl_insert, hreverse]
  rfl

theorem mem_keys_merge_iff {list extra : PropertyList} {key : String}
    : key ∈ (list.merge extra).keys ↔ key ∈ list.keys ∨ key ∈ extra.keys := by
  simp only [mem_keys_iff, get?_merge]
  cases extra.get? key <;> simp

end DirectedMarkdown.PropertyList
