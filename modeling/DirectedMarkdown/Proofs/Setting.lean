import DirectedMarkdown.Proofs.List.Lookup
import DirectedMarkdown.Setting
import Mathlib.Data.List.Induction

/-!
This module contains the values of settings after others were made or taken away. Settings with
different names can be made in any order.
-/

namespace DirectedMarkdown.Snapshot

theorem lookup_place (name other : String) (value : Value) (entries : List (String × Value))
    : (place name value entries).lookup other
        = if other = name then some value else entries.lookup other := by
  induction entries with
  | nil => rw [place, lookup_cons_eq_if]
  | cons entry rest ih =>
    unfold place
    split
    . rw [lookup_cons_eq_if]
    . split
      . next heq =>
        subst heq
        rw [lookup_cons_eq_if, lookup_cons_eq_if]
        split <;> rfl
      . next hne =>
        rw [lookup_cons_eq_if, lookup_cons_eq_if, ih]
        by_cases hother : other = entry.1 <;> simp [hother, hne]

theorem get?_insert (snapshot : Snapshot) (name other : String) (value : Value)
    : (snapshot.insert name value).get? other
        = if other = name then some value else snapshot.get? other :=
  lookup_place name other value snapshot.entries

theorem lookup_filter_name_ne (name other : String) (entries : List (String × Value))
    : (entries.filter (·.1 ≠ name)).lookup other
        = if other = name then none else entries.lookup other := by
  induction entries with
  | nil => simp
  | cons entry rest ih =>
    by_cases h : entry.1 = name
    . rw [List.filter_cons_of_neg (by simp [h]), ih, lookup_cons_eq_if, h]
      by_cases hother : other = name <;> simp [hother]
    . rw [List.filter_cons_of_pos (by simp [h]), lookup_cons_eq_if, lookup_cons_eq_if, ih]
      by_cases hother : other = entry.1 <;> simp [hother, h]

theorem get?_erase (snapshot : Snapshot) (name other : String)
    : (snapshot.erase name).get? other
        = if other = name then none else snapshot.get? other :=
  lookup_filter_name_ne name other snapshot.entries

/-- Of the settings with one name, the last one counts. -/
theorem get?_ofList (settings : List (String × Value)) (name : String)
    : (ofList settings).get? name = settings.reverse.lookup name := by
  induction settings using List.reverseRecOn with
  | nil => rfl
  | append_singleton settings setting ih =>
    have hlast : ofList (settings ++ [setting])
        = (ofList settings).insert setting.1 setting.2 := by
      unfold ofList
      rw [List.foldl_append]
      rfl
    rw [hlast, get?_insert, ih, List.reverse_append, List.reverse_singleton]
    rw [List.singleton_append, lookup_cons_eq_if]

theorem nodup_names (snapshot : Snapshot) : snapshot.names.Nodup := by
  unfold names
  rw [List.Nodup, List.pairwise_map]
  apply snapshot.sorted.imp
  intro first second hlt heq
  rw [heq] at hlt
  exact String.lt_irrefl _ hlt

theorem get?_ofList_of_perm {settings : List (String × Value)} {snapshot : Snapshot}
    (h : settings.Perm snapshot.entries) (name : String)
    : (ofList settings).get? name = snapshot.get? name := by
  have hperm : settings.reverse.Perm snapshot.entries := settings.reverse_perm.trans h
  rw [get?_ofList]
  apply lookup_eq_of_perm hperm
  rw [(hperm.map Prod.fst).nodup_iff]
  exact snapshot.nodup_names

end DirectedMarkdown.Snapshot
