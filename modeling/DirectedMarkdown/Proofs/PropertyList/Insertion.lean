import DirectedMarkdown.Proofs.List.FirstOccurrence
import DirectedMarkdown.Proofs.PropertyList.Entries
import DirectedMarkdown.Proofs.PropertyList.Merge
import Mathlib.Data.Finset.Card

/-!
This module contains property lists with a history: they are collected from pairs and changed by
further insertions and by merges. All that can be told from such a list is which pairs were put in,
one after the other: the last value of a key counts, at the place of the first.
-/

namespace DirectedMarkdown.PropertyList

/-- A way to put pairs into a property list. -/
inductive Change where
  | insert (key value : String)
  | merge (extra : PropertyList)

namespace Change

/-- The pairs that are put in, one after the other. -/
def pairs : Change → List (String × String)
  | insert key value => [(key, value)]
  | merge extra => extra.entries

def apply (list : PropertyList) : Change → PropertyList
  | insert key value => (list.exchange key value).2
  | merge extra => list.merge extra

end Change

/-- The list that is collected from `start` and then changed. -/
def changed (start : List (String × String)) (changes : List Change) : PropertyList :=
  changes.foldl Change.apply (ofList start)

/-- All pairs that are ever put into the list. -/
def history (start : List (String × String)) (changes : List Change) : List (String × String) :=
  start ++ changes.flatMap Change.pairs

/-- The list is what is left of the pairs that were put into it. -/
structure Recalls (list : PropertyList) (pairs : List (String × String)) : Prop where
  nodup : list.keys.Nodup
  /-- A key stands where it was first put in. -/
  keys : list.keys = (pairs.map Prod.fst).eraseDups
  /-- Of the values of a key, the last one counts. -/
  get? : ∀ key value, list.get? key = some value
    ↔ ∃ before after, pairs = before ++ (key, value) :: after ∧ key ∉ after.map Prod.fst
  size : list.size = (pairs.map Prod.fst).toFinset.card
  /-- An insertion answers with the value that it takes the place of. -/
  exchange : ∀ key value, (list.exchange key value).1 = list.get? key

theorem ofList_append (pairs more : List (String × String))
    : ofList (pairs ++ more)
        = more.foldl (fun acc entry => acc.insert entry.1 entry.2) (ofList pairs) := by
  unfold ofList
  apply List.foldl_append

theorem Change.apply_ofList (change : Change) (pairs : List (String × String))
    : change.apply (ofList pairs) = ofList (pairs ++ change.pairs) := by
  rw [ofList_append]
  cases change with
  | insert key value => rfl
  | merge extra => rfl

/-- The pairs that are put in can as well be collected at once. -/
theorem changed_eq (start : List (String × String)) (changes : List Change)
    : changed start changes = ofList (history start changes) := by
  unfold changed history
  induction changes generalizing start with
  | nil => simp
  | cons change rest ih =>
    rw [List.foldl_cons, Change.apply_ofList, ih, List.flatMap_cons, List.append_assoc]

theorem keys_ofList (pairs : List (String × String))
    : (ofList pairs).keys = (pairs.map Prod.fst).eraseDups := by
  induction pairs using List.reverseRecOn with
  | nil => rfl
  | append_singleton pairs pair ih =>
    rw [ofList_concat, keys_insert, ih, List.map_append, List.map_singleton, eraseDups_concat]
    simp only [List.mem_eraseDups]

theorem recalls_ofList (pairs : List (String × String)) : (ofList pairs).Recalls pairs where
  nodup := (ofList pairs).nodup
  keys := keys_ofList pairs
  get? := by
    intro key value
    rw [get?_ofList, lookup_reverse_eq_some_iff]
  size := by
    have hnodup : (ofList pairs).keys.Nodup := (ofList pairs).nodup
    have hset : (pairs.map Prod.fst).toFinset = (ofList pairs).keys.toFinset := by
      ext key
      rw [keys_ofList, List.mem_toFinset, List.mem_toFinset, List.mem_eraseDups]
    rw [hset, List.toFinset_card_of_nodup hnodup, keys, List.length_map, size]
  exchange := by
    intro key value
    rfl

theorem empty_merge (list : PropertyList) : empty.merge list = list :=
  ofList_entries list

theorem merge_empty (list : PropertyList) : list.merge empty = list :=
  rfl

theorem merge_self (list : PropertyList) : list.merge list = list := by
  apply eq_of_keys_eq
  . have hold : list.keys.filter (· ∉ list.keys) = [] := by simp
    rw [keys_merge, hold, List.append_nil]
  . intro key
    rw [get?_merge, Option.or_self]

/--
Whatever is put into the empty list, in whatever way, the list is what is left of it. Merging is
associative, changes nothing where one of the lists is empty, and a list is merged with itself
without change.
-/
theorem changed_recalls_history
    : (∀ start changes, (changed start changes).Recalls (history start changes))
      ∧ (∀ list extra further : PropertyList,
        (list.merge extra).merge further = list.merge (extra.merge further))
      ∧ ∀ list : PropertyList,
        empty.merge list = list ∧ list.merge empty = list ∧ list.merge list = list := by
  refine ⟨?_, merge_assoc, ?_⟩
  . intro start changes
    rw [changed_eq]
    exact recalls_ofList (history start changes)
  . intro list
    exact ⟨list.empty_merge, list.merge_empty, list.merge_self⟩

/-- A key keeps its place when its value is replaced, and the list is told of the old value. -/
example
    : let list := changed [("z", "1"), ("a", "2")] [.insert "z" "3", .merge (ofList [("b", "4")])]
      list.entries = [("z", "3"), ("a", "2"), ("b", "4")]
        ∧ (list.exchange "z" "5").1 = some "3" := by
  decide

end DirectedMarkdown.PropertyList
