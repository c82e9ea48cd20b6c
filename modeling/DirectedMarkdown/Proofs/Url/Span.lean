import DirectedMarkdown.Proofs.Text.Scan
import DirectedMarkdown.Proofs.Url.Bare

/-!
This module contains the parts of a bare URL: the scheme, the characters up to the last one of a
word, and the slashes behind it. The search for bare URLs finds them at each place.
-/

namespace DirectedMarkdown.Url

/--
What stands behind the scheme of a bare URL. The URL ends between `slashes` and `tail`, and the
longest run of characters that can be part of it ends between `tail` and `behind`.
-/
structure Parts (core slashes tail behind : List Char) : Prop where
  isRun : ∀ c ∈ core ++ (slashes ++ tail), isBareChar c
  isLongest : ∀ c ∈ behind.head?, isBareChar c = false
  endsInWord : Text.isWordAt core.getLast?
  noWord : ∀ c ∈ slashes ++ tail, Text.isWord c = false
  isSlash : ∀ c ∈ slashes, c = '/'
  noSlash : (tail ++ behind).head? ≠ some '/'

/-- A bare URL with what is before it and what is behind it. -/
inductive IsBare (before : List Char) : List Char → List Char → Prop where
  | mk {scheme core slashes tail behind : List Char}
    (hscheme : scheme ∈ ["http://".toList, "https://".toList])
    (hbefore : Text.isWordAt before.getLast? = false) (hparts : Parts core slashes tail behind)
    : IsBare before (scheme ++ (core ++ slashes)) (tail ++ behind)

theorem isBareChar_slash : isBareChar '/' := by
  decide

theorem ne_nil_of_isWordAt_getLast? {s : List Char} (h : Text.isWordAt s.getLast?) : s ≠ [] := by
  rintro rfl
  simp [Text.isWordAt] at h

theorem dropEndWhile_eq {core rest : List Char} (hcore : Text.isWordAt core.getLast?)
    (hrest : ∀ c ∈ rest, Text.isWord c = false)
    : Text.dropEndWhile (!Text.isWord ·) (core ++ rest) = core := by
  have hne := ne_nil_of_isWordAt_getLast? hcore
  unfold Text.dropEndWhile
  rw [List.reverse_append, dropWhile_append_of_head?, List.reverse_reverse]
  . intro c hmem
    rw [List.mem_reverse] at hmem
    simp [hrest c hmem]
  . intro c hmem
    rw [List.head?_reverse, Option.mem_def] at hmem
    rw [hmem] at hcore
    simpa [Text.isWordAt] using hcore

namespace Parts

variable {core slashes tail behind : List Char}

theorem takeWhile_isBareChar (h : Parts core slashes tail behind)
    : (core ++ (slashes ++ (tail ++ behind))).takeWhile isBareChar
        = core ++ (slashes ++ tail) := by
  rw [← takeWhile_append_of_head? h.isRun h.isLongest]
  simp only [List.append_assoc]

theorem takeWhile_slash (h : Parts core slashes tail behind)
    : (slashes ++ (tail ++ behind)).takeWhile (· = '/') = slashes := by
  apply takeWhile_append_of_head?
  . intro c hmem
    simpa using h.isSlash c hmem
  . intro c hmem
    have hne : c ≠ '/' := by
      rintro rfl
      exact h.noSlash hmem
    simpa using hne

theorem unique {core' slashes' tail' behind' : List Char} (h : Parts core slashes tail behind)
    (h' : Parts core' slashes' tail' behind')
    (heq : core ++ (slashes ++ (tail ++ behind)) = core' ++ (slashes' ++ (tail' ++ behind')))
    : core = core' ∧ slashes = slashes' ∧ tail ++ behind = tail' ++ behind' := by
  have hrun := h.takeWhile_isBareChar
  rw [heq, h'.takeWhile_isBareChar] at hrun
  obtain rfl : core = core' := by
    rw [← dropEndWhile_eq h.endsInWord h.noWord, ← hrun, dropEndWhile_eq h'.endsInWord h'.noWord]
  have hrest := List.append_cancel_left heq
  obtain rfl : slashes = slashes' := by
    rw [← h.takeWhile_slash, hrest, h'.takeWhile_slash]
  exact ⟨rfl, rfl, List.append_cancel_left hrest⟩

theorem prepend (h : Parts core slashes tail behind) {front : List Char}
    (hfront : ∀ c ∈ front, isBareChar c) : Parts (front ++ core) slashes tail behind where
  isRun := by
    rw [List.append_assoc]
    intro c hmem
    rw [List.mem_append] at hmem
    cases hmem with
    | inl hmem => exact hfront c hmem
    | inr hmem => exact h.isRun c hmem
  isLongest := h.isLongest
  endsInWord := by
    rw [List.getLast?_append_of_ne_nil _ (ne_nil_of_isWordAt_getLast? h.endsInWord)]
    exact h.endsInWord
  noWord := h.noWord
  isSlash := h.isSlash
  noSlash := h.noSlash

theorem of_exists_isWord {s : List Char} (h : ∃ c ∈ s.takeWhile isBareChar, Text.isWord c)
    : ∃ core slashes tail behind, s = core ++ (slashes ++ (tail ++ behind))
        ∧ Parts core slashes tail behind := by
  have hne : Text.dropEndWhile (!Text.isWord ·) (s.takeWhile isBareChar) ≠ [] := by
    rw [ne_eq, Text.dropEndWhile_eq_nil_iff]
    obtain ⟨c, hmem, hword⟩ := h
    intro hnone
    simpa [hword] using hnone c hmem
  have hcore := Text.isWordAt_getLast?_dropEndWhile hne
  obtain ⟨dropped, hrun, hdropped⟩ :=
    Text.dropEndWhile_append (!Text.isWord ·) (s.takeWhile isBareChar)
  generalize Text.dropEndWhile (!Text.isWord ·) (s.takeWhile isBareChar) = core at hrun hcore
  have hsplit := List.takeWhile_append_dropWhile (p := (· = '/')) (l := dropped)
  refine ⟨core, dropped.takeWhile (· = '/'), dropped.dropWhile (· = '/'),
    s.dropWhile isBareChar, ?_, ?_, ?_, hcore, ?_, ?_, ?_⟩
  . rw [← List.append_assoc (List.takeWhile _ _), hsplit, ← List.append_assoc, ← hrun,
      List.takeWhile_append_dropWhile]
  . rw [hsplit, ← hrun]
    intro c hmem
    exact List.mem_takeWhile_imp hmem
  . exact head?_dropWhile_eq_false isBareChar s
  . rw [hsplit]
    intro c hmem
    simpa using hdropped c hmem
  . intro c hmem
    simpa using List.mem_takeWhile_imp hmem
  . intro hslash
    rw [List.head?_append, Option.or_eq_some_iff] at hslash
    rcases hslash with hslash | ⟨_, hslash⟩
    . simpa using head?_dropWhile_eq_false (· = '/') dropped _ hslash
    . have := head?_dropWhile_eq_false isBareChar s _ hslash
      rw [isBareChar_slash] at this
      contradiction

end Parts

section

variable {scheme core slashes tail behind : List Char}

theorem scheme_ne_nil (h : scheme ∈ ["http://".toList, "https://".toList]) : scheme ≠ [] := by
  rintro rfl
  simp at h

theorem bareLength_of_parts {before : Option Char}
    (hscheme : scheme ∈ ["http://".toList, "https://".toList])
    (hbefore : Text.isWordAt before = false) (hparts : Parts core slashes tail behind)
    : bareLength before (scheme ++ (core ++ (slashes ++ (tail ++ behind))))
        = (scheme ++ (core ++ slashes)).length := by
  have hschemeLength : scheme.length ≠ 0 := by
    simpa using scheme_ne_nil hscheme
  have hcoreLength : core.length ≠ 0 := by
    simpa using ne_nil_of_isWordAt_getLast? hparts.endsInWord
  have hslashes : (slashes ++ tail).takeWhile (· = '/') = slashes := by
    apply takeWhile_append_of_head?
    . intro c hmem
      simpa using hparts.isSlash c hmem
    . intro c hmem
      have hne : c ≠ '/' := by
        rintro rfl
        apply hparts.noSlash
        rw [List.head?_append, hmem]
        rfl
      simpa using hne
  unfold bareLength coreLength
  rw [schemeLength_append hscheme, hbefore, List.drop_left, hparts.takeWhile_isBareChar]
  dsimp only
  rw [dropEndWhile_eq hparts.endsInWord hparts.noWord, List.drop_left, hslashes]
  simp only [hschemeLength, hcoreLength, Bool.false_or, decide_false, Bool.false_eq_true, if_false,
    List.length_append]
  omega

theorem exists_parts {before : Option Char} {s : List Char} (h : bareLength before s ≠ 0)
    : ∃ scheme ∈ ["http://".toList, "https://".toList], ∃ core slashes tail behind,
        s = scheme ++ (core ++ (slashes ++ (tail ++ behind)))
          ∧ Text.isWordAt before = false ∧ Parts core slashes tail behind := by
  obtain ⟨hbefore, hscheme, hcore⟩ := bareLength_ne_zero_iff.mp h
  obtain ⟨scheme, hmem, rest, rfl⟩ := exists_scheme hscheme
  rw [schemeLength_append hmem, List.drop_left, coreLength_ne_zero_iff] at hcore
  obtain ⟨core, slashes, tail, behind, rfl, hparts⟩ := Parts.of_exists_isWord hcore
  exact ⟨scheme, hmem, core, slashes, tail, behind, rfl, hbefore, hparts⟩

end

theorem IsBare.bareLength_eq {before url after : List Char} (h : IsBare before url after)
    : bareLength before.getLast? (url ++ after) = url.length := by
  cases h with
  | mk hscheme hbefore hparts =>
    rw [List.append_assoc, List.append_assoc]
    exact bareLength_of_parts hscheme hbefore hparts

theorem IsBare.ne_nil {before url after : List Char} (h : IsBare before url after) : url ≠ [] := by
  cases h with
  | mk hscheme _ _ => exact List.append_ne_nil_of_left_ne_nil (scheme_ne_nil hscheme) _

/-- The search for bare URLs finds what is one at each place. -/
theorem finds_bareLength : Text.Finds bareLength IsBare := by
  constructor
  . intro before url after h
    exact h.ne_nil
  . intro before url after hzero h
    rw [h.bareLength_eq, List.length_eq_zero_iff] at hzero
    exact h.ne_nil hzero
  . intro before s hlength
    obtain ⟨scheme, hscheme, core, slashes, tail, behind, rfl, hbefore, hparts⟩ :=
      exists_parts hlength
    refine ⟨scheme ++ (core ++ slashes), tail ++ behind, by simp, ?_,
      .mk hscheme hbefore hparts, ?_⟩
    . exact (bareLength_of_parts hscheme hbefore hparts).symm
    . intro url after heq h
      have hurl := h.bareLength_eq
      rw [← heq, bareLength_of_parts hscheme hbefore hparts] at hurl
      exact Nat.le_of_eq hurl.symm

/-- The last character of a bare URL is one of a word, or a slash. -/
theorem IsBare.getLast? {before url after : List Char} (h : IsBare before url after)
    : Text.isWordAt url.getLast? ∨ url.getLast? = some '/' := by
  cases h with
  | @mk _ core slashes _ _ _ _ hparts =>
    have hne := ne_nil_of_isWordAt_getLast? hparts.endsInWord
    rw [List.getLast?_append_of_ne_nil _ (List.append_ne_nil_of_left_ne_nil hne _)]
    by_cases hslashes : slashes = []
    . rw [hslashes, List.append_nil]
      exact .inl hparts.endsInWord
    . rw [List.getLast?_append_of_ne_nil _ hslashes, List.getLast?_eq_some_getLast hslashes]
      exact .inr (congrArg some (hparts.isSlash _ (List.getLast_mem hslashes)))

theorem isBareChar_of_mem_scheme {scheme : List Char}
    (h : scheme ∈ ["http://".toList, "https://".toList]) : ∀ c ∈ scheme, isBareChar c := by
  rw [← List.all_eq_true]
  revert scheme
  decide

theorem head?_scheme {scheme : List Char} (h : scheme ∈ ["http://".toList, "https://".toList])
    : scheme.head? = some 'h' ∧ 'h' ∉ scheme.tail := by
  simp only [List.mem_cons, List.not_mem_nil, or_false] at h
  obtain rfl | rfl := h
  . simp
  . simp

/-- No other scheme starts within a scheme. -/
theorem scheme_length_le {scheme scheme' front rest rest' : List Char}
    (h : scheme ∈ ["http://".toList, "https://".toList])
    (h' : scheme' ∈ ["http://".toList, "https://".toList])
    (heq : scheme ++ rest = front ++ (scheme' ++ rest')) (hfront : front ≠ [])
    : scheme.length ≤ front.length := by
  apply Nat.le_of_not_lt
  intro hshort
  obtain ⟨later, rfl⟩ : front <+: scheme :=
    List.prefix_of_prefix_length_le ⟨_, heq.symm⟩ (List.prefix_append _ _) (Nat.le_of_lt hshort)
  have hlater : later ≠ [] := by
    rintro rfl
    simp at hshort
  rw [List.append_assoc] at heq
  have hhead := congrArg List.head? (List.append_cancel_left heq)
  rw [head?_append_of_ne_nil hlater, head?_append_of_ne_nil (scheme_ne_nil h'),
    (head?_scheme h').1] at hhead
  apply (head?_scheme h).2
  rw [List.tail_append_of_ne_nil hfront]
  exact List.mem_append_right _ (List.mem_of_head? hhead)

/-- A bare URL that starts within another one ends where that one ends. -/
theorem IsBare.length_eq {before url after front url' after' : List Char}
    (h : IsBare before url after) (h' : IsBare (before ++ front) url' after')
    (heq : url ++ after = front ++ (url' ++ after')) (hinside : front.length < url.length)
    : front.length + url'.length = url.length := by
  by_cases hfront : front = []
  . subst hfront
    rw [List.append_nil] at h'
    rw [← h.bareLength_eq, ← h'.bareLength_eq, heq]
    simp
  . cases h with
    | @mk scheme core slashes tail behind hscheme _ hparts =>
      cases h' with
      | @mk scheme' core' slashes' tail' behind' hscheme' _ hparts' =>
        simp only [List.append_assoc] at heq
        obtain ⟨middle, rfl⟩ : scheme <+: front :=
          List.prefix_of_prefix_length_le (List.prefix_append _ _) ⟨_, heq.symm⟩
            (scheme_length_le hscheme hscheme' heq hfront)
        rw [List.append_assoc] at heq
        have hrest := List.append_cancel_left heq
        -- All characters from the one scheme to the other can be part of a URL.
        have hbegins : middle <+: core ++ slashes := by
          apply List.prefix_of_prefix_length_le ⟨_, hrest.symm⟩
          . exact ⟨tail ++ behind, by simp⟩
          . simp only [List.length_append] at hinside ⊢
            omega
        have hmiddle : ∀ c ∈ middle ++ scheme', isBareChar c := by
          intro c hmem
          rw [List.mem_append] at hmem
          cases hmem with
          | inl hmem =>
            apply hparts.isRun
            rw [← List.append_assoc]
            exact List.mem_append_left _ (hbegins.subset hmem)
          | inr hmem => exact isBareChar_of_mem_scheme hscheme' c hmem
        have hwhole := hparts'.prepend hmiddle
        obtain ⟨hcore, hslashes, _⟩ := hparts.unique hwhole (by simpa using hrest)
        rw [hcore, hslashes]
        simp only [List.length_append]
        omega

end DirectedMarkdown.Url
