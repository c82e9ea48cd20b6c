import DirectedMarkdown.Proofs.Text.Blank
import DirectedMarkdown.Proofs.Text.Cut
import DirectedMarkdown.Url.Bare

/-!
This module contains the bare URLs of a text: the search finds one just if a scheme stands at a word
boundary, with characters behind it that reach up to another word boundary.
-/

namespace DirectedMarkdown

namespace Text

theorem isWord_eq_false_of_isBlank {c : Char} (h : isBlank c) : isWord c = false := by
  have hall : ∀ n ∈ [9, 10, 11, 12, 13, 0x20, 0x85, 0xA0, 0x1680, 0x2000, 0x2001, 0x2002, 0x2003,
      0x2004, 0x2005, 0x2006, 0x2007, 0x2008, 0x2009, 0x200A, 0x2028, 0x2029, 0x202F, 0x205F,
      0x3000],
      isWord (Char.ofNat n) = false := by
    decide +kernel
  rw [← Char.ofNat_toNat c]
  apply hall
  simp only [isBlank, Bool.or_eq_true, Bool.and_eq_true, decide_eq_true_eq, beq_iff_eq] at h
  simp only [List.mem_cons, List.not_mem_nil, or_false]
  omega

theorem isWordAt_getLast?_dropEndWhile {s : List Char}
    (h : dropEndWhile (!isWord ·) s ≠ []) : isWordAt (dropEndWhile (!isWord ·) s).getLast? := by
  have hlast : ¬(!isWord ((dropEndWhile (!isWord ·) s).getLast h)) = true :=
    List.rdropWhile_last_not (!isWord ·) s h
  rw [List.getLast?_eq_some_getLast h]
  simpa [isWordAt] using hlast

end Text

namespace Url

/-- A bare URL stands in the text, from a word boundary to a word boundary. -/
def Stands (s : List Char) : Prop :=
  ∃ scheme ∈ ["http://".toList, "https://".toList], ∃ before run after,
    s = before ++ scheme ++ run ++ after
      ∧ run ≠ [] ∧ (∀ c ∈ run, isBareChar c)
      ∧ Text.isBoundary before.getLast? scheme.head?
      ∧ Text.isBoundary run.getLast? after.head?

theorem isBareChar_of_isWord {c : Char} (h : Text.isWord c) : isBareChar c := by
  unfold isBareChar
  cases hblank : Text.isBlank c with
  | true =>
    rw [Text.isWord_eq_false_of_isBlank hblank] at h
    simp at h
  | false =>
    have : c ≠ '<' := by
      rintro rfl
      exact absurd h (by decide)
    simpa using this

theorem schemeLength_append {scheme : List Char}
    (h : scheme ∈ ["http://".toList, "https://".toList]) (rest : List Char)
    : schemeLength (scheme ++ rest) = scheme.length := by
  simp only [List.mem_cons, List.not_mem_nil, or_false] at h
  unfold schemeLength
  obtain rfl | rfl := h <;> simp

theorem isWordAt_head?_scheme {scheme : List Char}
    (h : scheme ∈ ["http://".toList, "https://".toList]) : Text.isWordAt scheme.head? := by
  revert scheme
  decide

theorem exists_scheme {s : List Char} (h : schemeLength s ≠ 0)
    : ∃ scheme ∈ ["http://".toList, "https://".toList], ∃ rest, s = scheme ++ rest := by
  unfold schemeLength at h
  split at h
  . next hprefix =>
    obtain ⟨rest, hrest⟩ := List.isPrefixOf_iff_prefix.mp hprefix
    exact ⟨_, List.mem_cons_self, rest, hrest.symm⟩
  . split at h
    . next hprefix =>
      obtain ⟨rest, hrest⟩ := List.isPrefixOf_iff_prefix.mp hprefix
      exact ⟨_, List.mem_cons_of_mem _ List.mem_cons_self, rest, hrest.symm⟩
    . simp at h

theorem bareLength_ne_zero_iff {before : Option Char} {s : List Char}
    : bareLength before s ≠ 0
        ↔ Text.isWordAt before = false ∧ schemeLength s ≠ 0
          ∧ coreLength ((s.drop (schemeLength s)).takeWhile isBareChar) ≠ 0 := by
  unfold bareLength
  split
  . next h =>
    simp only [Bool.or_eq_true, decide_eq_true_eq] at h
    cases h with
    | inl hword => simp [hword]
    | inr hscheme => simp [hscheme]
  . next h =>
    simp only [Bool.or_eq_true, decide_eq_true_eq, not_or, Bool.not_eq_true] at h
    dsimp only
    split
    . next hcore => simp [hcore]
    . next hcore =>
      simp only [h.1, ne_eq, h.2, hcore, not_false_eq_true, and_self, iff_true]
      omega

theorem coreLength_ne_zero_iff {run : List Char}
    : coreLength run ≠ 0 ↔ ∃ c ∈ run, Text.isWord c := by
  unfold coreLength
  rw [ne_eq, List.length_eq_zero_iff, Text.dropEndWhile_eq_nil_iff]
  simp

/-- A neighbour that cannot be part of a bare URL is not part of a word. -/
theorem isWordAt_eq_false {neighbour : Option Char} (h : ∀ c ∈ neighbour, isBareChar c = false)
    : Text.isWordAt neighbour = false := by
  cases neighbour with
  | none => rfl
  | some c =>
    have hc := h c rfl
    cases hword : Text.isWord c with
    | false => exact hword
    | true =>
      rw [isBareChar_of_isWord hword] at hc
      contradiction

theorem isWordAt_head?_dropWhile (s : List Char)
    : Text.isWordAt (s.dropWhile isBareChar).head? = false :=
  isWordAt_eq_false (head?_dropWhile_eq_false isBareChar s)

theorem hasHit_iff_stands (s : List Char) : Text.HasHit bareLength s ↔ Stands s := by
  constructor
  . rintro ⟨before, c, rest, rfl, hhit⟩
    obtain ⟨hword, hscheme, hcore⟩ := bareLength_ne_zero_iff.mp hhit
    obtain ⟨scheme, hmem, rest, hrest⟩ := exists_scheme hscheme
    rw [hrest, schemeLength_append hmem, List.drop_left] at hcore
    unfold coreLength at hcore
    rw [ne_eq, List.length_eq_zero_iff] at hcore
    -- The URL ends with the last character of a word, and what is dropped is behind it.
    obtain ⟨dropped, hrun, hdropped⟩ :=
      Text.dropEndWhile_append (!Text.isWord ·) (rest.takeWhile isBareChar)
    refine ⟨scheme, hmem, before, _, dropped ++ rest.dropWhile isBareChar, ?_, hcore, ?_, ?_, ?_⟩
    . rw [List.append_assoc _ _ (dropped ++ _), ← List.append_assoc _ dropped, ← hrun]
      rw [List.takeWhile_append_dropWhile, List.append_assoc, ← hrest]
    . intro d hd
      apply List.mem_takeWhile_imp (l := rest)
      rw [hrun]
      exact List.mem_append_left _ hd
    . unfold Text.isBoundary
      rw [hword, isWordAt_head?_scheme hmem]
      rfl
    . unfold Text.isBoundary
      rw [Text.isWordAt_getLast?_dropEndWhile hcore]
      cases dropped with
      | nil =>
        rw [List.nil_append, isWordAt_head?_dropWhile]
        rfl
      | cons d dropped =>
        have hd := hdropped d List.mem_cons_self
        simpa [Text.isWordAt] using hd
  . rintro ⟨scheme, hmem, before, run, after, rfl, hne, hbare, hstart, hend⟩
    have hhead := isWordAt_head?_scheme hmem
    obtain ⟨c, rest, hscheme⟩ : ∃ c rest, scheme = c :: rest := by
      apply List.exists_cons_of_ne_nil
      rintro rfl
      simp [Text.isWordAt] at hhead
    have htail : c :: (rest ++ run ++ after) = scheme ++ (run ++ after) := by simp [hscheme]
    refine ⟨before, c, rest ++ run ++ after, by simp [hscheme], ?_⟩
    rw [htail, bareLength_ne_zero_iff, schemeLength_append hmem, List.drop_left]
    refine ⟨?_, by simp [hscheme], ?_⟩
    . unfold Text.isBoundary at hstart
      rw [hhead] at hstart
      simpa using hstart
    . rw [coreLength_ne_zero_iff, List.takeWhile_append_of_pos hbare]
      cases hlast : Text.isWordAt run.getLast? with
      | true =>
        rw [List.getLast?_eq_some_getLast hne] at hlast
        exact ⟨_, List.mem_append_left _ (List.getLast_mem hne), hlast⟩
      | false =>
        -- The character behind the run is one of a word, and so still a part of the URL.
        unfold Text.isBoundary at hend
        rw [hlast] at hend
        cases after with
        | nil => simp [Text.isWordAt] at hend
        | cons d after =>
          have hd : Text.isWord d := by simpa [Text.isWordAt] using hend
          refine ⟨d, List.mem_append_right _ ?_, hd⟩
          simp [isBareChar_of_isWord hd]

end Url

end DirectedMarkdown
