import DirectedMarkdown.Proofs.PropertyList.Lookup

/-!
This module contains the laws of merged property lists. A list is determined by its keys in their
order and by the values under them, so that it does not matter which of three lists are merged
first.
-/

namespace DirectedMarkdown.PropertyList

theorem keys_insert (list : PropertyList) (key value : String)
    : (list.insert key value).keys
        = if key ∈ list.keys then list.keys else list.keys ++ [key] :=
  keys_upsert key value list.entries

theorem keys_foldl_insert (list : PropertyList) {pairs : List (String × String)}
    (h : (pairs.map Prod.fst).Nodup)
    : (pairs.foldl (fun acc entry => acc.insert entry.1 entry.2) list).keys
        = list.keys ++ (pairs.map Prod.fst).filter (· ∉ list.keys) := by
  induction pairs using List.reverseRecOn with
  | nil => simp
  | append_singleton pairs pair ih =>
    rw [List.map_append, List.map_singleton, List.nodup_append] at h
    have hnew : pair.1 ∉ pairs.map Prod.fst := by
      intro hmem
      exact h.2.2 _ hmem _ (by simp) rfl
    rw [List.foldl_append, List.foldl_cons, List.foldl_nil, keys_insert, ih h.1]
    rw [List.map_append, List.map_singleton, List.filter_append]
    by_cases hkey : pair.1 ∈ list.keys
    . simp [hkey]
    . simp [hkey, hnew]

/-- The keys that are new come behind the keys that were there before. -/
theorem keys_merge (list extra : PropertyList)
    : (list.merge extra).keys = list.keys ++ extra.keys.filter (· ∉ list.keys) :=
  keys_foldl_insert list extra.nodup

theorem entries_eq_map_keys (list : PropertyList)
    : list.entries = list.keys.map fun key => (key, (list.get? key).getD "") := by
  have hentry : ∀ entry ∈ list.entries, (entry.1, (list.get? entry.1).getD "") = entry := by
    intro entry hmem
    have hvalue : list.get? entry.1 = some entry.2 := lookup_eq_some_of_mem list.nodup hmem
    rw [hvalue]
    rfl
  unfold keys
  rw [List.map_map]
  symm
  exact (List.map_congr_left hentry).trans (List.map_id _)

theorem eq_of_keys_eq {list other : PropertyList} (hkeys : list.keys = other.keys)
    (hget : ∀ key, list.get? key = other.get? key) : list = other := by
  have hentries : list.entries = other.entries := by
    rw [entries_eq_map_keys, entries_eq_map_keys, hkeys]
    simp only [hget]
  cases list
  cases other
  simpa using hentries

theorem merge_assoc (list extra further : PropertyList)
    : (list.merge extra).merge further = list.merge (extra.merge further) := by
  apply eq_of_keys_eq
  . simp only [keys_merge, List.filter_append, List.filter_filter, List.append_assoc]
    congr 2
    apply List.filter_congr
    intro key _
    simp only [List.mem_append, List.mem_filter]
    by_cases hlist : key ∈ list.keys
    . simp [hlist]
    . simp [hlist]
  . intro key
    rw [get?_merge, get?_merge, get?_merge, get?_merge, Option.or_assoc]

end DirectedMarkdown.PropertyList
