import DirectedMarkdown.Proofs.Except
import DirectedMarkdown.Proofs.PropertyList.Merge
import DirectedMarkdown.Proofs.PropertyList.Parser
import DirectedMarkdown.Proofs.Text.Split

/-!
This module contains the reading of an input in two parts, with a separator between them: each part
is read by itself, and the second list is merged over the first one.
-/

namespace DirectedMarkdown.PropertyList

theorem merge_insert (list extra : PropertyList) (key value : String)
    : list.merge (extra.insert key value) = (list.merge extra).insert key value :=
  (merge_assoc list extra (ofList [(key, value)])).symm

/-- It makes no difference whether pairs are collected before they are put into a list. -/
theorem merge_ofList (list : PropertyList) (pairs : List (String × String))
    : list.merge (ofList pairs)
        = pairs.foldl (fun acc pair => acc.insert pair.1 pair.2) list := by
  induction pairs using List.reverseRecOn with
  | nil => rfl
  | append_singleton pairs pair ih =>
    rw [ofList_concat, merge_insert, ih, List.foldl_append]
    rfl

theorem foldlM_insertEntry_eq_map (pieces : List (List Char)) (list : PropertyList)
    : pieces.foldlM insertEntry list = (pieces.foldlM insertEntry empty).map list.merge := by
  rw [foldlM_insertEntry, foldlM_insertEntry]
  split
  . rfl
  . rw [← merge_ofList]
    rfl

theorem parse_append (first second : String) (separator : Char)
    : parse (first ++ String.singleton separator ++ second) (String.singleton separator)
        = (parse first (String.singleton separator)).bind fun list =>
            (parse second (String.singleton separator)).map list.merge := by
  unfold parse
  rw [String.toList_append, String.toList_append, String.toList_singleton]
  rw [Text.splitOn_singleton, Text.splitOn_singleton, Text.splitOn_singleton]
  rw [List.append_assoc, List.singleton_append, List.splitOn_append_cons_self, List.foldlM_append]
  apply congrArg
  funext list
  exact foldlM_insertEntry_eq_map (second.toList.splitOn separator) list

/--
An input is read just if the parts on both sides of a separator are, and its list is that of the
second part over that of the first. If both parts are malformed, the first one is reported.
-/
theorem parse_parts (first second : String) (separator : Char)
    : let read := fun input => parse input (String.singleton separator)
      let whole := read (first ++ String.singleton separator ++ second)
      ((∃ list, whole = .ok list)
          ↔ (∃ front, read first = .ok front) ∧ ∃ back, read second = .ok back)
        ∧ (∀ list, whole = .ok list
          ↔ ∃ front back, read first = .ok front ∧ read second = .ok back
            ∧ list = front.merge back)
        ∧ (∀ e, whole = .error e
          ↔ read first = .error e ∨ (∃ front, read first = .ok front) ∧ read second = .error e)
        ∧ ∀ front back : PropertyList,
          (front.merge back).keys = front.keys ++ back.keys.filter (· ∉ front.keys)
            ∧ ∀ key, (front.merge back).get? key = (back.get? key).or (front.get? key) := by
  intro read whole
  have hwhole : whole = (read first).bind fun list => (read second).map list.merge :=
    parse_append first second separator
  have hok : ∀ list, whole = .ok list
      ↔ ∃ front back, read first = .ok front ∧ read second = .ok back
        ∧ list = front.merge back := by
    intro list
    rw [hwhole]
    exact except_both_eq_ok_iff
  refine ⟨?_, hok, ?_, ?_⟩
  . constructor
    . rintro ⟨list, hlist⟩
      obtain ⟨front, back, hfront, hback, _⟩ := (hok list).mp hlist
      exact ⟨⟨front, hfront⟩, back, hback⟩
    . rintro ⟨⟨front, hfront⟩, back, hback⟩
      exact ⟨front.merge back, (hok _).mpr ⟨front, back, hfront, hback, rfl⟩⟩
  . intro e
    rw [hwhole]
    exact except_both_eq_error_iff
  . intro front back
    exact ⟨keys_merge front back, get?_merge front back⟩

/-- A separator may be a character that could end a key. -/
example : (parse "a:1=b:2=a:3" "=").map entries = .ok [("a", "3"), ("b", "2")] := by
  decide +kernel

end DirectedMarkdown.PropertyList
