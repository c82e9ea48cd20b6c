import DirectedMarkdown.Proofs.Text.Pattern
import DirectedMarkdown.Proofs.Url.Span

/-!
This module contains the search for bare URLs by a pattern. The characters behind the scheme are
given up one by one until a word boundary follows, which is first the case behind the last character
of a word.
-/

namespace DirectedMarkdown.Url

open Text (Pattern)

/-- The end of a bare URL: a word boundary, and slashes behind it. -/
def ending : Pattern :=
  .seq .boundary (.many (· = '/'))

/-- What stands behind the scheme. -/
def remainder : Pattern :=
  .seq (.char isBareChar) (.seq (.many isBareChar) ending)

/-- The pattern behind the word boundary at the start. -/
def schemed : Pattern :=
  .seq (.literal "http".toList)
    (.seq (.optional (.literal "s".toList)) (.seq (.literal "://".toList) remainder))

/-- The pattern for bare URLs. -/
def pattern : Pattern :=
  .seq .boundary schemed

theorem ways_ending (before : Option Char) (s : List Char)
    : ending.ways before s
        = if Text.isBoundary before s.head? then (Pattern.many (· = '/')).ways before s else [] :=
  Pattern.ways_seq_boundary _ before s

theorem ways_ending_cons (c : Char) (rest : List Char) (k : Nat)
    : ending.ways ((rest.take k).getLast?.or (some c)) (rest.drop k)
        = ending.ways ((c :: rest).take (k + 1)).getLast? ((c :: rest).drop (k + 1)) := by
  rw [List.take_succ_cons, List.drop_succ_cons, ← getLast?_cons_or c _ none, Option.or_none]

/-- Between characters that are not of a word there is no word boundary. -/
theorem ways_ending_eq_nil (front : List Char) {quiet behind : List Char}
    (hquiet : ∀ c ∈ quiet, Text.isWord c = false) (hbehind : Text.isWordAt behind.head? = false)
    {k : Nat} (hfront : front.length < k) (hk : k ≤ front.length + quiet.length)
    : ending.ways ((front ++ (quiet ++ behind)).take k).getLast?
        ((front ++ (quiet ++ behind)).drop k) = [] := by
  obtain ⟨first, second, rfl, hlength⟩ :
      ∃ first second, quiet = first ++ second ∧ (front ++ first).length = k := by
    refine ⟨quiet.take (k - front.length), quiet.drop (k - front.length),
      (List.take_append_drop _ _).symm, ?_⟩
    simp only [List.length_append, List.length_take]
    omega
  have hne : first ≠ [] := by
    rintro rfl
    simp only [List.append_nil] at hlength
    omega
  have hlast : Text.isWordAt (front ++ first).getLast? = false := by
    rw [List.getLast?_append_of_ne_nil _ hne, List.getLast?_eq_some_getLast hne]
    exact hquiet _ (List.mem_append_left _ (List.getLast_mem hne))
  have hnext : Text.isWordAt (second ++ behind).head? = false := by
    cases second with
    | nil => exact hbehind
    | cons c second => exact hquiet c (by simp)
  have hlist : front ++ (first ++ second ++ behind) = front ++ first ++ (second ++ behind) := by
    simp
  rw [hlist, List.take_left' hlength, List.drop_left' hlength, ways_ending]
  unfold Text.isBoundary
  rw [hlast, hnext]
  rfl

theorem head?_ways_ending {core slashes tail behind : List Char}
    (h : Parts core slashes tail behind)
    : (ending.ways core.getLast? (slashes ++ (tail ++ behind))).head? = some slashes.length := by
  have hnext : Text.isWordAt (slashes ++ (tail ++ behind)).head? = false := by
    rw [← List.append_assoc]
    cases hquiet : slashes ++ tail with
    | nil => exact isWordAt_eq_false h.isLongest
    | cons c rest =>
      apply h.noWord
      rw [hquiet]
      exact List.mem_cons_self
  rw [ways_ending, Text.isBoundary, h.endsInWord, hnext]
  rw [if_pos (by decide), Pattern.head?_ways_many, h.takeWhile_slash]

theorem head?_ways_remainder {core slashes tail behind : List Char}
    (h : Parts core slashes tail behind) (before : Option Char)
    : (remainder.ways before (core ++ (slashes ++ (tail ++ behind)))).head?
        = some (core ++ slashes).length := by
  obtain ⟨c, rest, rfl⟩ :=
    List.exists_cons_of_ne_nil (ne_nil_of_isWordAt_getLast? h.endsInWord)
  have hc : isBareChar c := h.isRun c (by simp)
  have hrun : (rest ++ (slashes ++ (tail ++ behind))).takeWhile isBareChar
      = rest ++ (slashes ++ tail) := by
    have hwhole := h.takeWhile_isBareChar
    simpa [hc] using hwhole
  have hmany : ((Pattern.seq (.many isBareChar) ending).ways (some c)
      (rest ++ (slashes ++ (tail ++ behind)))).head? = some (rest.length + slashes.length) := by
    apply Pattern.head?_ways_seq_many
    . rw [hrun, List.length_append]
      exact Nat.le_add_right _ _
    . intro k hk hmost
      rw [hrun, List.length_append] at hmost
      rw [ways_ending_cons, ← List.cons_append, ← List.append_assoc slashes]
      apply ways_ending_eq_nil _ h.noWord (isWordAt_eq_false h.isLongest)
      . simpa using hk
      . simp only [List.length_cons]
        omega
    . rw [List.take_left, List.drop_left, ← getLast?_cons_or c rest none, Option.or_none]
      exact head?_ways_ending h
  show ((Pattern.seq (.char isBareChar) _).ways before (c :: (rest ++ _))).head? = _
  rw [Pattern.ways_seq_char_cons, if_pos hc, List.head?_map, hmany]
  simp only [Option.map_some, List.cons_append, List.length_cons, List.length_append]
  congr 1
  omega

theorem ways_remainder_eq_nil {s : List Char}
    (h : ∀ c ∈ s.takeWhile isBareChar, Text.isWord c = false) (before : Option Char)
    : remainder.ways before s = [] := by
  cases s with
  | nil => rfl
  | cons c rest =>
    show (Pattern.seq (.char isBareChar) _).ways before (c :: rest) = _
    rw [Pattern.ways_seq_char_cons]
    split
    . next hc =>
      rw [List.takeWhile_cons_of_pos hc] at h
      rw [List.map_eq_nil_iff]
      apply Pattern.ways_seq_many_eq_nil
      intro k hk
      have hnext := isWordAt_head?_dropWhile rest
      have hnone := ways_ending_eq_nil [] h hnext (Nat.succ_pos k)
        (by simpa using hk)
      rw [List.nil_append, List.cons_append, List.takeWhile_append_dropWhile] at hnone
      rw [ways_ending_cons]
      exact hnone
    . rfl

theorem ways_schemed {scheme : List Char} (h : scheme ∈ ["http://".toList, "https://".toList])
    (before : Option Char) (rest : List Char)
    : schemed.ways before (scheme ++ rest)
        = (remainder.ways (some '/') rest).map (scheme.length + ·) := by
  have hcolon (previous : Option Char)
      : (Pattern.seq (.literal "://".toList) remainder).ways previous ("://".toList ++ rest)
        = (remainder.ways (some '/') rest).map ("://".toList.length + ·) :=
    Pattern.ways_seq_literal_append (by decide) remainder previous rest
  unfold schemed
  simp only [List.mem_cons, List.not_mem_nil, or_false] at h
  obtain rfl | rfl := h
  . show Pattern.ways _ before ("http".toList ++ ("://".toList ++ rest)) = _
    rw [Pattern.ways_seq_literal_append (by decide), Pattern.ways_seq_optional]
    rw [Pattern.ways_seq_literal_of_not_isPrefixOf (by simp), List.nil_append, hcolon, List.map_map]
    apply List.map_congr_left
    intro n _
    simp only [Function.comp_apply, ← Nat.add_assoc]
    rfl
  . show Pattern.ways _ before ("http".toList ++ ("s".toList ++ ("://".toList ++ rest))) = _
    rw [Pattern.ways_seq_literal_append (by decide), Pattern.ways_seq_optional]
    rw [Pattern.ways_seq_literal_append (by decide), hcolon]
    rw [Pattern.ways_seq_literal_of_not_isPrefixOf (by simp), List.append_nil, List.map_map,
      List.map_map]
    apply List.map_congr_left
    intro n _
    simp only [Function.comp_apply, ← Nat.add_assoc]
    rfl

/-- Where the pattern behind the word boundary matches, there is a scheme. -/
theorem ways_schemed_eq_nil {s : List Char} (h : schemeLength s = 0) (before : Option Char)
    : schemed.ways before s = [] := by
  unfold schemed
  by_cases hhttp : "http".toList.isPrefixOf s
  . obtain ⟨rest, rfl⟩ := List.isPrefixOf_iff_prefix.mp hhttp
    have hplain : ¬"://".toList.isPrefixOf rest := by
      intro hbegins
      obtain ⟨rest, rfl⟩ := List.isPrefixOf_iff_prefix.mp hbegins
      simp [schemeLength] at h
    rw [Pattern.ways_seq_literal_append (by decide), Pattern.ways_seq_optional]
    rw [Pattern.ways_seq_literal_of_not_isPrefixOf hplain, List.append_nil]
    by_cases hs : "s".toList.isPrefixOf rest
    . obtain ⟨rest, rfl⟩ := List.isPrefixOf_iff_prefix.mp hs
      have hsecure : ¬"://".toList.isPrefixOf rest := by
        intro hbegins
        obtain ⟨rest, rfl⟩ := List.isPrefixOf_iff_prefix.mp hbegins
        simp [schemeLength] at h
      rw [Pattern.ways_seq_literal_append (by decide)]
      rw [Pattern.ways_seq_literal_of_not_isPrefixOf hsecure]
      rfl
    . rw [Pattern.ways_seq_literal_of_not_isPrefixOf hs]
      rfl
  . exact Pattern.ways_seq_literal_of_not_isPrefixOf hhttp _ before

theorem isWordAt_eq_false_of_isBoundary {scheme : List Char} {before : Option Char}
    (hscheme : scheme ∈ ["http://".toList, "https://".toList]) {rest : List Char}
    (h : Text.isBoundary before (scheme ++ rest).head?) : Text.isWordAt before = false := by
  unfold Text.isBoundary at h
  rw [head?_append_of_ne_nil (scheme_ne_nil hscheme), isWordAt_head?_scheme hscheme] at h
  simpa using h

theorem ways_schemed_of_bareLength_eq_zero {before : Option Char} {s : List Char}
    (h : bareLength before s = 0) (hstart : Text.isBoundary before s.head?)
    : schemed.ways before s = [] := by
  by_cases hlength : schemeLength s = 0
  . exact ways_schemed_eq_nil hlength before
  . obtain ⟨scheme, hscheme, rest, rfl⟩ := exists_scheme hlength
    have hbefore := isWordAt_eq_false_of_isBoundary hscheme hstart
    have hnone : ¬coreLength (rest.takeWhile isBareChar) ≠ 0 := by
      intro hcore
      apply bareLength_ne_zero_iff.mpr _ h
      rw [schemeLength_append hscheme, List.drop_left]
      rw [schemeLength_append hscheme] at hlength
      exact ⟨hbefore, hlength, hcore⟩
    rw [coreLength_ne_zero_iff] at hnone
    push Not at hnone
    rw [ways_schemed hscheme, ways_remainder_eq_nil]
    . rfl
    . intro c hmem
      simpa using hnone c hmem

/-- The pattern finds the same URLs as the search without it. -/
theorem matchLength_pattern : pattern.matchLength = bareLength := by
  funext before s
  show ((Pattern.seq .boundary schemed).ways before s).headD 0 = _
  rw [Pattern.ways_seq_boundary]
  by_cases hlength : bareLength before s = 0
  . rw [hlength]
    split
    . next hstart =>
      rw [ways_schemed_of_bareLength_eq_zero hlength hstart]
      rfl
    . rfl
  . obtain ⟨scheme, hscheme, core, slashes, tail, behind, rfl, hbefore, hparts⟩ :=
      exists_parts hlength
    have hhead := head?_ways_remainder hparts (some '/')
    have hstart : Text.isBoundary before
        (scheme ++ (core ++ (slashes ++ (tail ++ behind)))).head? := by
      unfold Text.isBoundary
      rw [hbefore, head?_append_of_ne_nil (scheme_ne_nil hscheme), isWordAt_head?_scheme hscheme]
      rfl
    rw [if_pos hstart, ways_schemed hscheme, bareLength_of_parts hscheme hbefore hparts]
    rw [List.headD_eq_head?_getD, List.head?_map, hhead]
    exact List.length_append.symm

end DirectedMarkdown.Url
