import DirectedMarkdown.Abbreviation.Occurrence
import DirectedMarkdown.Proofs.Text.Hit

/-!
This module contains the occurrences of abbreviations: the search finds one just if one of them
stands in the text between two word boundaries.
-/

namespace DirectedMarkdown.Abbreviation

/-- One of the words stands in the text, from a word boundary to a word boundary. -/
def Occurs (words : List (List Char)) (s : List Char) : Prop :=
  ∃ word ∈ words, ∃ before after, word ≠ [] ∧ s = before ++ word ++ after
    ∧ Text.isBoundary before.getLast? word.head? ∧ Text.isBoundary word.getLast? after.head?

theorem foldl_max_le_iff {keys : List (List Char)} {n m : Nat}
    : keys.foldl (fun longest key => max longest key.length) n ≤ m
        ↔ n ≤ m ∧ ∀ key ∈ keys, key.length ≤ m := by
  induction keys generalizing n with
  | nil => simp
  | cons key keys ih => rw [List.foldl_cons, ih, List.forall_mem_cons, Nat.max_le, and_assoc]

theorem foldl_max_eq_zero_iff {keys : List (List Char)} {n : Nat}
    : keys.foldl (fun longest key => max longest key.length) n = 0
        ↔ n = 0 ∧ ∀ key ∈ keys, key.length = 0 := by
  simp only [← Nat.le_zero, foldl_max_le_iff]

theorem occurrenceLength_ne_zero_iff {keys : List (List Char)} {before : Option Char}
    {s : List Char}
    : occurrenceLength keys before s ≠ 0
        ↔ Text.isBoundary before s.head? ∧ ∃ key ∈ keys, occursAt key s := by
  unfold occurrenceLength
  split
  . next hboundary =>
    rw [ne_eq, foldl_max_eq_zero_iff]
    simp only [true_and, hboundary, List.mem_filter, List.length_eq_zero_iff]
    constructor
    . intro h
      apply Classical.byContradiction
      intro hnone
      apply h
      intro key hkey
      exact absurd ⟨key, hkey⟩ hnone
    . rintro ⟨key, hkey, hoccurs⟩ h
      rw [h key ⟨hkey, hoccurs⟩] at hoccurs
      simp [occursAt] at hoccurs
  . next hboundary => simp [hboundary]

theorem hasHit_iff_occurs (words : List (List Char)) (s : List Char)
    : Text.HasHit (occurrenceLength words) s ↔ Occurs words s := by
  unfold Text.HasHit Occurs
  constructor
  . rintro ⟨before, c, rest, rfl, hhit⟩
    obtain ⟨hboundary, word, hword, hoccurs⟩ := occurrenceLength_ne_zero_iff.mp hhit
    simp only [occursAt, Bool.and_eq_true, Bool.not_eq_true', List.isEmpty_eq_false_iff] at hoccurs
    obtain ⟨⟨hne, hprefix⟩, hend⟩ := hoccurs
    obtain ⟨after, hafter⟩ := List.isPrefixOf_iff_prefix.mp hprefix
    refine ⟨word, hword, before, after, hne, by rw [← hafter]; simp, ?_, ?_⟩
    . obtain ⟨d, rest, rfl⟩ := List.exists_cons_of_ne_nil hne
      rw [← hafter] at hboundary
      exact hboundary
    . rw [← hafter, List.drop_left] at hend
      exact hend
  . rintro ⟨word, hword, before, after, hne, rfl, hstart, hend⟩
    obtain ⟨c, rest, rfl⟩ := List.exists_cons_of_ne_nil hne
    refine ⟨before, c, rest ++ after, by simp, ?_⟩
    rw [occurrenceLength_ne_zero_iff]
    refine ⟨hstart, c :: rest, hword, ?_⟩
    simp only [occursAt, Bool.and_eq_true, Bool.not_eq_true', List.isEmpty_eq_false_iff]
    refine ⟨⟨hne, ?_⟩, ?_⟩
    . rw [List.isPrefixOf_iff_prefix]
      exact ⟨after, rfl⟩
    . rw [← List.cons_append, List.drop_left]
      exact hend

theorem le_occurrenceLength {keys : List (List Char)} {before : Option Char} {s key : List Char}
    (hboundary : Text.isBoundary before s.head?) (hkey : key ∈ keys) (hoccurs : occursAt key s)
    : key.length ≤ occurrenceLength keys before s := by
  unfold occurrenceLength
  rw [if_pos hboundary]
  apply (foldl_max_le_iff.mp (Nat.le_refl _)).2
  rw [List.mem_filter]
  exact ⟨hkey, hoccurs⟩

theorem exists_length_eq_occurrenceLength {keys : List (List Char)} {before : Option Char}
    {s : List Char} (h : occurrenceLength keys before s ≠ 0)
    : ∃ key ∈ keys, occursAt key s ∧ key.length = occurrenceLength keys before s := by
  have hboundary := (occurrenceLength_ne_zero_iff.mp h).1
  apply Classical.byContradiction
  intro hnone
  -- Without a key of this length, all of them are shorter, and so is the longest.
  have hshorter : occurrenceLength keys before s ≤ occurrenceLength keys before s - 1 := by
    rw [occurrenceLength, if_pos hboundary, foldl_max_le_iff]
    refine ⟨by omega, ?_⟩
    intro key hkey
    rw [List.mem_filter] at hkey
    have hle := le_occurrenceLength hboundary hkey.1 hkey.2
    have hne : key.length ≠ occurrenceLength keys before s :=
      fun heq => hnone ⟨key, hkey.1, hkey.2, heq⟩
    rw [occurrenceLength, if_pos hboundary] at hle hne
    omega
  omega

theorem occursAt_append_iff {key after : List Char}
    : occursAt key (key ++ after)
        ↔ key ≠ [] ∧ Text.isBoundary key.getLast? after.head? := by
  have hprefix : key.isPrefixOf (key ++ after) := by simp
  simp [occursAt, hprefix]

variable {words : List (List Char)} {s before word after key : List Char}

/-- What is found is one of the words, from a word boundary to a word boundary. -/
theorem occurs_of_isHit (h : Text.IsHit (occurrenceLength words) s before word after)
    : word ∈ words ∧ Text.isBoundary before.getLast? word.head?
        ∧ Text.isBoundary word.getLast? after.head? := by
  have hword := h.eq_take
  have hlength : occurrenceLength words before.getLast? (word ++ after) ≠ 0 := by
    intro hzero
    rw [hzero] at hword
    exact h.ne_nil hword
  obtain ⟨key, hkey, hoccurs, heq⟩ := exists_length_eq_occurrenceLength hlength
  have hprefix : key <+: word ++ after := by
    simp only [occursAt, Bool.and_eq_true] at hoccurs
    exact List.isPrefixOf_iff_prefix.mp hoccurs.1.2
  obtain rfl : key = word := by
    rw [hword, ← heq]
    exact List.prefix_iff_eq_take.mp hprefix
  have hboundary := (occurrenceLength_ne_zero_iff.mp hlength).1
  rw [head?_append_of_ne_nil h.ne_nil] at hboundary
  exact ⟨hkey, hboundary, (occursAt_append_iff.mp hoccurs).2⟩

/-- A word from boundary to boundary is found where it is, or as the beginning of a longer one. -/
theorem exists_isHit_of_occurs (hkey : key ∈ words) (hne : key ≠ [])
    (hs : s = before ++ key ++ after) (hstart : Text.isBoundary before.getLast? key.head?)
    (hend : Text.isBoundary key.getLast? after.head?)
    (hfree : ∀ front word back, Text.IsHit (occurrenceLength words) s front word back →
      front.length < before.length → front.length + word.length ≤ before.length)
    : ∃ word back, Text.IsHit (occurrenceLength words) s before word back ∧ key <+: word := by
  have hoccurs : occursAt key (key ++ after) := occursAt_append_iff.mpr ⟨hne, hend⟩
  have hhead : Text.isBoundary before.getLast? (key ++ after).head? := by
    rwa [head?_append_of_ne_nil hne]
  have hle := le_occurrenceLength hhead hkey hoccurs
  have hlength : occurrenceLength words before.getLast? (key ++ after) ≠ 0 := by
    have := List.length_pos_iff.mpr hne
    omega
  obtain ⟨c, rest, hrest⟩ : ∃ c rest, key ++ after = c :: rest := by
    apply List.exists_cons_of_ne_nil
    simp [hne]
  rw [List.append_assoc, hrest] at hs
  rw [hrest] at hlength
  obtain ⟨front, word, back, hhit, hfront, hcovers⟩ := Text.exists_isHit hs hlength
  -- The hit at this place starts here, since no earlier one reaches it.
  have hsame : front.length = before.length := by
    have := hfree front word back hhit
    omega
  have heq := hhit.eq_append
  rw [hs, List.append_assoc] at heq
  obtain ⟨rfl, htail⟩ := List.append_inj heq hsame.symm
  refine ⟨word, back, hhit, ?_⟩
  have hword := hhit.eq_take
  rw [← htail, ← hrest] at hword
  rw [hword]
  exact List.prefix_take_iff.mpr ⟨List.prefix_append key after, hle⟩

end DirectedMarkdown.Abbreviation
