import DirectedMarkdown.PropertyList
import Mathlib.Data.List.Induction

/-!
This module contains the entries of a property list that is made of pairs: they are among the pairs,
and they are the pairs themselves if no key comes twice.
-/

namespace DirectedMarkdown.PropertyList

theorem upsert_of_notMem {key : String} {entries : List (String × String)}
    (h : key ∉ entries.map Prod.fst) (value : String)
    : upsert key value entries = entries ++ [(key, value)] := by
  induction entries with
  | nil => rfl
  | cons entry rest ih =>
    rw [List.map_cons, List.mem_cons, not_or] at h
    unfold upsert
    rw [if_neg fun heq => h.1 heq.symm, ih h.2, List.cons_append]

theorem mem_upsert {key value : String} {entries : List (String × String)}
    {entry : String × String} (h : entry ∈ upsert key value entries)
    : entry = (key, value) ∨ entry ∈ entries := by
  induction entries with
  | nil => simpa [upsert] using h
  | cons head rest ih =>
    unfold upsert at h
    split at h
    . rw [List.mem_cons] at h
      exact h.imp_right (List.mem_cons_of_mem _)
    . rw [List.mem_cons] at h
      cases h with
      | inl heq => simp [heq]
      | inr hmem => exact (ih hmem).imp_right (List.mem_cons_of_mem _)

theorem entries_insert (list : PropertyList) (key value : String)
    : (list.insert key value).entries = upsert key value list.entries :=
  rfl

theorem ofList_concat (pairs : List (String × String)) (pair : String × String)
    : ofList (pairs ++ [pair]) = (ofList pairs).insert pair.1 pair.2 := by
  unfold ofList
  rw [List.foldl_append]
  rfl

theorem mem_entries_ofList {pairs : List (String × String)} {entry : String × String}
    (h : entry ∈ (ofList pairs).entries) : entry ∈ pairs := by
  induction pairs using List.reverseRecOn with
  | nil => exact h
  | append_singleton pairs pair ih =>
    rw [ofList_concat] at h
    rw [List.mem_append, List.mem_singleton]
    cases mem_upsert h with
    | inl heq => exact .inr heq
    | inr hmem => exact .inl (ih hmem)

theorem entries_ofList {pairs : List (String × String)} (h : (pairs.map Prod.fst).Nodup)
    : (ofList pairs).entries = pairs := by
  induction pairs using List.reverseRecOn with
  | nil => rfl
  | append_singleton pairs pair ih =>
    rw [List.map_append, List.nodup_append] at h
    have hnew : pair.1 ∉ pairs.map Prod.fst := by
      intro hmem
      exact h.2.2 pair.1 hmem pair.1 (by simp) rfl
    rw [ofList_concat, entries_insert, ih h.1, upsert_of_notMem hnew]

theorem ofList_entries (list : PropertyList) : ofList list.entries = list := by
  have hentries := entries_ofList list.nodup
  generalize ofList list.entries = other at hentries
  cases list
  cases other
  simpa using hentries

end DirectedMarkdown.PropertyList
