import DirectedMarkdown.Proofs.Abbreviation.Occurrence
import DirectedMarkdown.Proofs.Text.Pattern
import Mathlib.Data.Char
import Mathlib.Data.List.Lex
import Mathlib.Data.List.Perm.Basic

/-!
This module contains the search for abbreviations by a pattern: the words stand in it as
alternatives between two word boundaries, and those with more bytes are tried first. It finds the
longest of the words that occur at a place.
-/

namespace DirectedMarkdown.Abbreviation

open Text (Pattern)

/-- The number of bytes of a word. -/
def size (word : List Char) : Nat :=
  (String.ofList word).utf8ByteSize

/-- Whether a word is tried before another one. -/
def isTriedBefore (a b : List Char) : Bool :=
  if size a = size b then decide (a ≤ b) else decide (size b < size a)

/-- The words in the order in which they are tried. -/
def inOrder (words : List (List Char)) : List (List Char) :=
  words.mergeSort isTriedBefore

/-- The pattern for words. -/
def pattern (words : List (List Char)) : Pattern :=
  .seq .boundary (.seq (.oneOf (inOrder words)) .boundary)

theorem size_append (a b : List Char) : size (a ++ b) = size a + size b := by
  unfold size
  rw [String.ofList_append, String.utf8ByteSize_append]

theorem size_eq_zero_iff {word : List Char} : size word = 0 ↔ word = [] := by
  unfold size
  rw [String.utf8ByteSize_eq_zero_iff, ← String.toList_inj, String.toList_ofList]
  rfl

/-- Of two beginnings of a text, the one with more bytes is the longer one. -/
theorem length_le_of_size_le {a b s : List Char} (ha : a <+: s) (hb : b <+: s)
    (h : size a ≤ size b) : a.length ≤ b.length := by
  rcases List.prefix_or_prefix_of_prefix ha hb with hbegins | ⟨rest, rfl⟩
  . exact hbegins.length_le
  . rw [size_append] at h
    have hrest : rest = [] := by
      rw [← size_eq_zero_iff]
      omega
    simp [hrest]

theorem isTriedBefore_trans {a b c : List Char} (hab : isTriedBefore a b)
    (hbc : isTriedBefore b c) : isTriedBefore a c := by
  unfold isTriedBefore at *
  split at hab
  . next hsame =>
    rw [hsame]
    split at hbc
    . next heq =>
      rw [if_pos heq]
      simp only [decide_eq_true_eq] at hab hbc ⊢
      exact le_trans hab hbc
    . next hne =>
      rw [if_neg hne]
      exact hbc
  . next hab' =>
    simp only [decide_eq_true_eq] at hab
    split at hbc
    . next heq =>
      rw [← heq, if_neg hab']
      simpa using hab
    . next hne =>
      simp only [decide_eq_true_eq] at hbc
      rw [if_neg (by omega)]
      simp only [decide_eq_true_eq]
      omega

theorem isTriedBefore_total (a b : List Char) : isTriedBefore a b || isTriedBefore b a := by
  unfold isTriedBefore
  rw [Bool.or_eq_true]
  by_cases h : size a = size b
  . rw [if_pos h, if_pos h.symm]
    simpa using le_total a b
  . rw [if_neg h, if_neg (Ne.symm h)]
    simp only [decide_eq_true_eq]
    omega

theorem size_le_of_isTriedBefore {a b : List Char} (h : isTriedBefore a b) : size b ≤ size a := by
  unfold isTriedBefore at h
  split at h
  . next heq => exact Nat.le_of_eq heq.symm
  . exact Nat.le_of_lt (by simpa using h)

theorem perm_inOrder (words : List (List Char)) : (inOrder words).Perm words :=
  List.mergeSort_perm words isTriedBefore

theorem pairwise_inOrder (words : List (List Char))
    : (inOrder words).Pairwise (fun a b => size b ≤ size a) := by
  apply (List.pairwise_mergeSort _ isTriedBefore_total words).imp
  . exact size_le_of_isTriedBefore
  . intro a b c
    exact isTriedBefore_trans

theorem occursAt_eq {word s : List Char} (hne : word ≠ [])
    : occursAt word s
        = (word.isPrefixOf s && Text.isBoundary word.getLast? (s.drop word.length).head?) := by
  unfold occursAt
  rw [List.isEmpty_eq_false_iff.mpr hne]
  rfl

theorem ways_boundary_of_isPrefixOf {word s : List Char} (hne : word ≠ [])
    (hbegins : word.isPrefixOf s) (before : Option Char)
    : (Pattern.boundary.ways ((s.take word.length).getLast?.or before)
        (s.drop word.length)).map (word.length + ·)
        = if occursAt word s then [word.length] else [] := by
  obtain ⟨rest, rfl⟩ := List.isPrefixOf_iff_prefix.mp hbegins
  have hlast : word.getLast?.or before = word.getLast? := by
    rw [List.getLast?_eq_some_getLast hne]
    rfl
  rw [occursAt_eq hne, hbegins, Bool.true_and, Pattern.ways_boundary, List.take_left, hlast]
  split
  . simp
  . rfl

theorem ways_oneOf_boundary {words : List (List Char)} (hne : ∀ word ∈ words, word ≠ [])
    (before : Option Char) (s : List Char)
    : (Pattern.seq (.oneOf words) .boundary).ways before s
        = (words.filter (occursAt · s)).map List.length := by
  rw [Pattern.ways_seq, Pattern.ways_oneOf]
  induction words with
  | nil => rfl
  | cons word rest ih =>
    rw [List.forall_mem_cons] at hne
    rw [List.filter_cons, List.filter_cons]
    by_cases hbegins : word.isPrefixOf s
    . rw [if_pos hbegins, List.map_cons, List.flatMap_cons, ih hne.2]
      rw [ways_boundary_of_isPrefixOf hne.1 hbegins]
      split
      . rfl
      . rfl
    . have hnot : ¬occursAt word s := by
        rw [occursAt_eq hne.1]
        simp [hbegins]
      rw [if_neg hbegins, if_neg hnot]
      exact ih hne.2

/-- The first alternative that matches is the longest one. -/
theorem headD_map_length {words : List (List Char)} {s : List Char}
    (hpairwise : words.Pairwise (fun a b => size b ≤ size a)) (hbegins : ∀ word ∈ words, word <+: s)
    : (words.map List.length).headD 0
        = words.foldl (fun longest word => max longest word.length) 0 := by
  cases words with
  | nil => rfl
  | cons first rest =>
    rw [List.pairwise_cons] at hpairwise
    rw [List.forall_mem_cons] at hbegins
    show first.length = _
    apply Nat.le_antisymm
    . exact (foldl_max_le_iff.mp (Nat.le_refl _)).2 first List.mem_cons_self
    . rw [foldl_max_le_iff, List.forall_mem_cons]
      refine ⟨Nat.zero_le _, Nat.le_refl _, ?_⟩
      intro word hmem
      exact length_le_of_size_le (hbegins.2 word hmem) hbegins.1 (hpairwise.1 word hmem)

theorem foldl_max_le_of_subset {words others : List (List Char)} (h : words ⊆ others)
    : words.foldl (fun longest word => max longest word.length) 0
        ≤ others.foldl (fun longest word => max longest word.length) 0 := by
  rw [foldl_max_le_iff]
  refine ⟨Nat.zero_le _, fun word hmem => ?_⟩
  exact (foldl_max_le_iff.mp (Nat.le_refl _)).2 word (h hmem)

theorem occurrenceLength_eq_of_perm {words others : List (List Char)} (h : words.Perm others)
    : occurrenceLength words = occurrenceLength others := by
  funext before s
  unfold occurrenceLength
  have hfilter := h.filter (occursAt · s)
  rw [Nat.le_antisymm (foldl_max_le_of_subset hfilter.subset)
    (foldl_max_le_of_subset hfilter.symm.subset)]

theorem matchLength_pattern {words : List (List Char)} (hne : ∀ word ∈ words, word ≠ [])
    : (pattern words).matchLength = occurrenceLength words := by
  have hperm := perm_inOrder words
  rw [← occurrenceLength_eq_of_perm hperm]
  funext before s
  unfold Pattern.matchLength pattern occurrenceLength
  rw [Pattern.ways_seq_boundary]
  split
  . have hordered : ∀ word ∈ inOrder words, word ≠ [] :=
      fun word hmem => hne word (hperm.mem_iff.mp hmem)
    rw [ways_oneOf_boundary hordered]
    apply headD_map_length (s := s)
    . exact (pairwise_inOrder words).filter _
    . intro word hmem
      obtain ⟨hword, hoccurs⟩ := List.mem_filter.mp hmem
      rw [occursAt_eq (hordered word hword), Bool.and_eq_true] at hoccurs
      exact List.isPrefixOf_iff_prefix.mp hoccurs.1
  . rfl

end DirectedMarkdown.Abbreviation
