import Mathlib.Data.List.Nodup
import Mathlib.Data.List.Perm.Basic

/-!
This module contains the look-up in lists of entries with names. Where no two entries have one name,
each entry is found, in whatever order they are.
-/

namespace DirectedMarkdown

variable {α β : Type}

theorem lookup_cons_eq_if (entry : String × α) (rest : List (String × α)) (name : String)
    : (entry :: rest).lookup name = if name = entry.1 then some entry.2 else rest.lookup name := by
  rw [List.lookup_cons]
  by_cases h : name = entry.1
  . simp [h]
  . have hne : (name == entry.1) = false := by simpa using h
    rw [hne, if_neg h]

theorem lookup_map_snd (f : α → β) (name : String) (entries : List (String × α))
    : (entries.map fun entry => (entry.1, f entry.2)).lookup name
        = (entries.lookup name).map f := by
  induction entries with
  | nil => rfl
  | cons entry rest ih =>
    rw [List.map_cons, List.lookup_cons, List.lookup_cons, ih]
    split <;> rfl

theorem mem_of_lookup_eq_some {entries : List (String × α)} {name : String} {value : α}
    (h : entries.lookup name = some value) : (name, value) ∈ entries := by
  rw [List.lookup_eq_some_iff] at h
  obtain ⟨before, after, rfl, _⟩ := h
  simp

theorem lookup_eq_none_iff_notMem {entries : List (String × α)} {name : String}
    : entries.lookup name = none ↔ name ∉ entries.map Prod.fst := by
  induction entries with
  | nil => simp
  | cons entry rest ih =>
    rw [lookup_cons_eq_if, List.map_cons, List.mem_cons, not_or, ← ih]
    split
    . next h => simp [h]
    . next h => simp [h]

theorem lookup_eq_some_of_mem {entries : List (String × α)}
    (hnodup : (entries.map Prod.fst).Nodup) {name : String} {value : α}
    (h : (name, value) ∈ entries) : entries.lookup name = some value := by
  induction entries with
  | nil => contradiction
  | cons entry rest ih =>
    rw [List.map_cons, List.nodup_cons] at hnodup
    rw [lookup_cons_eq_if]
    cases h with
    | head => simp
    | tail _ hrest =>
      have hne : name ≠ entry.1 := by
        rintro rfl
        exact hnodup.1 (List.mem_map.mpr ⟨_, hrest, rfl⟩)
      rw [if_neg hne]
      exact ih hnodup.2 hrest

/-- From the end, the last entry with a name is found first. -/
theorem lookup_reverse_eq_some_iff {entries : List (String × α)} {name : String} {value : α}
    : entries.reverse.lookup name = some value
        ↔ ∃ before after, entries = before ++ (name, value) :: after
          ∧ name ∉ after.map Prod.fst := by
  rw [List.lookup_eq_some_iff]
  constructor
  . rintro ⟨later, earlier, heq, hlater⟩
    rw [List.reverse_eq_append_iff, List.reverse_cons, List.append_assoc,
      List.singleton_append] at heq
    refine ⟨earlier.reverse, later.reverse, heq, ?_⟩
    rw [List.map_reverse, List.mem_reverse, List.mem_map]
    rintro ⟨entry, hentry, rfl⟩
    simpa using hlater entry hentry
  . rintro ⟨before, after, rfl, hafter⟩
    refine ⟨after.reverse, before.reverse, by simp, ?_⟩
    intro entry hentry
    rw [bne_iff_ne]
    rintro rfl
    exact hafter (List.mem_map_of_mem (List.mem_reverse.mp hentry))

theorem lookup_eq_of_perm {entries others : List (String × α)} (h : entries.Perm others)
    (hnodup : (entries.map Prod.fst).Nodup) (name : String)
    : entries.lookup name = others.lookup name := by
  cases hlookup : entries.lookup name with
  | none =>
    symm
    rw [lookup_eq_none_iff_notMem] at hlookup ⊢
    rwa [← (h.map Prod.fst).mem_iff]
  | some value =>
    have hmem := h.subset (mem_of_lookup_eq_some hlookup)
    exact (lookup_eq_some_of_mem ((h.map Prod.fst).nodup_iff.mp hnodup) hmem).symm

end DirectedMarkdown
