import DirectedMarkdown.Proofs.Text.Cut

/-!
This module contains the hits of a search with their places. Each hit is as long as the search says
at its place, and a place where the search finds something lies in a hit.
-/

namespace DirectedMarkdown.Text

/-- A hit, with the text before it and the text behind it. -/
def IsHit (hitLength : Option Char → List Char → Nat) (s before word after : List Char) : Prop :=
  ∃ front back, cut hitLength s = front ++ .hit word :: back
    ∧ front.flatMap Piece.content = before ∧ back.flatMap Piece.content = after

variable {hitLength : Option Char → List Char → Nat}

theorem hit_notMem_plainPiece (word reversed : List Char) : .hit word ∉ plainPiece reversed := by
  unfold plainPiece
  split <;> simp

theorem getLast?_hit_append_or (c : Char) (word gap : List Char) (before : Option Char)
    : (c :: word ++ gap).getLast?.or before = gap.getLast?.or (some (word.getLastD c)) := by
  rw [List.getLast?_append, List.getLast?_cons, List.getLastD_eq_getLast?]
  cases gap.getLast? <;> rfl

theorem hit_of_go {before : Option Char} {plain s word : List Char} {front back : List Piece}
    (h : cut.go hitLength before plain s = front ++ .hit word :: back)
    : ∃ gap, front.flatMap Piece.content = plain.reverse ++ gap
        ∧ s = gap ++ word ++ back.flatMap Piece.content ∧ word ≠ []
        ∧ word = (word ++ back.flatMap Piece.content).take
            (hitLength (gap.getLast?.or before) (word ++ back.flatMap Piece.content)) := by
  fun_induction cut.go hitLength before plain s generalizing front with
  | case1 before plain =>
    have hmem : .hit word ∈ plainPiece plain := by rw [h]; simp
    exact absurd hmem (hit_notMem_plainPiece word plain)
  | case2 before plain c rest hlength ih =>
    obtain ⟨gap, hfront, hs, hne, hword⟩ := ih h
    refine ⟨c :: gap, by simp [hfront], by simp [hs], hne, ?_⟩
    rwa [getLast?_cons_or]
  | case3 before plain c rest n hlength ih =>
    -- What is before the first hit has no hit in it.
    obtain ⟨others, rfl, htail⟩ : ∃ others, front = plainPiece plain ++ others
        ∧ .hit (c :: rest.take n)
            :: cut.go hitLength (some ((rest.take n).getLastD c)) [] (rest.drop n)
          = others ++ .hit word :: back :=
      exists_of_append_eq_append_cons (hit_notMem_plainPiece word plain) h
    rw [List.flatMap_append, flatMap_content_plainPiece]
    cases others with
    | nil =>
      rw [List.nil_append, List.cons.injEq, Piece.hit.injEq] at htail
      obtain ⟨rfl, rfl⟩ := htail
      have hs : c :: rest = c :: rest.take n
          ++ (cut.go hitLength (some ((rest.take n).getLastD c)) [] (rest.drop n)).flatMap
            Piece.content := by
        rw [flatMap_content_go]
        simp
      refine ⟨[], rfl, hs, by simp, ?_⟩
      rw [← hs]
      simp [hlength]
    | cons piece others =>
      rw [List.cons_append, List.cons.injEq] at htail
      obtain ⟨rfl, htail⟩ := htail
      obtain ⟨gap, hfront, hs, hne, hword⟩ := ih htail
      refine ⟨c :: rest.take n ++ gap, ?_, ?_, hne, ?_⟩
      . simp [Piece.content, hfront]
      . have hrest : rest = rest.take n ++ rest.drop n := (List.take_append_drop n rest).symm
        rw [hs] at hrest
        simp only [List.cons_append, List.append_assoc] at hrest ⊢
        rw [← hrest]
      . rwa [getLast?_hit_append_or]

theorem exists_hit_of_go (plain : List Char) {before : Option Char} {gap s : List Char} {c : Char}
    {rest : List Char} (hs : s = gap ++ c :: rest)
    (h : hitLength (gap.getLast?.or before) (c :: rest) ≠ 0)
    : ∃ front word back, cut.go hitLength before plain s = front ++ .hit word :: back
        ∧ (front.flatMap Piece.content).length ≤ plain.length + gap.length
        ∧ plain.length + gap.length < (front.flatMap Piece.content).length + word.length := by
  fun_induction cut.go hitLength before plain s generalizing gap with
  | case1 before plain => simp at hs
  | case2 before plain d others hlength ih =>
    cases gap with
    | nil =>
      rw [List.nil_append] at hs
      rw [← hs] at h
      exact absurd hlength h
    | cons e gap =>
      rw [List.cons_append, List.cons.injEq] at hs
      obtain ⟨rfl, hs⟩ := hs
      rw [getLast?_cons_or] at h
      obtain ⟨front, word, back, heq, hstart, hend⟩ := ih hs h
      refine ⟨front, word, back, heq, ?_, ?_⟩
      . simp only [List.length_cons] at hstart ⊢
        omega
      . simp only [List.length_cons] at hend ⊢
        omega
  | case3 before plain d others n hlength ih =>
    by_cases hgap : gap.length ≤ n
    . -- The place is in the hit that is found here.
      refine ⟨plainPiece plain, d :: others.take n, _, rfl, ?_, ?_⟩
      . rw [flatMap_content_plainPiece]
        simp
      . have hlong : gap.length ≤ others.length := by
          have := congrArg List.length hs
          simp only [List.length_cons, List.length_append] at this
          omega
        rw [flatMap_content_plainPiece]
        simp only [List.length_reverse, List.length_cons, List.length_take]
        omega
    . cases gap with
      | nil => simp at hgap
      | cons e gap =>
        rw [List.cons_append, List.cons.injEq] at hs
        obtain ⟨rfl, rfl⟩ := hs
        simp only [List.length_cons, Nat.not_le] at hgap
        have htake : (gap ++ c :: rest).take n = gap.take n := by
          rw [List.take_append_of_le_length (by omega)]
        have hdrop : (gap ++ c :: rest).drop n = gap.drop n ++ c :: rest := by
          rw [List.drop_append_of_le_length (by omega)]
        have hlast : hitLength
            ((gap.drop n).getLast?.or (some (((gap ++ c :: rest).take n).getLastD d)))
              (c :: rest) ≠ 0 := by
          rw [htake, ← getLast?_hit_append_or d (gap.take n) (gap.drop n) before]
          rwa [List.cons_append, List.take_append_drop]
        obtain ⟨front, word, back, heq, hstart, hend⟩ := ih hdrop hlast
        refine ⟨plainPiece plain ++ .hit (d :: (gap ++ c :: rest).take n) :: front, word, back,
          by rw [heq]; simp, ?_, ?_⟩
        . rw [List.flatMap_append, List.flatMap_cons, flatMap_content_plainPiece, htake]
          simp only [Piece.content, List.length_append, List.length_reverse, List.length_cons,
            List.length_take, List.length_drop, List.length_nil] at hstart ⊢
          omega
        . rw [List.flatMap_append, List.flatMap_cons, flatMap_content_plainPiece, htake]
          simp only [Piece.content, List.length_append, List.length_reverse, List.length_cons,
            List.length_take, List.length_drop, List.length_nil] at hend ⊢
          omega

namespace IsHit

variable {s before word after : List Char}

theorem eq_append (h : IsHit hitLength s before word after) : s = before ++ word ++ after := by
  obtain ⟨front, back, heq, rfl, rfl⟩ := h
  rw [← flatMap_content_cut hitLength s, heq]
  simp [Piece.content]

theorem ne_nil (h : IsHit hitLength s before word after) : word ≠ [] := by
  obtain ⟨front, back, heq, rfl, rfl⟩ := h
  obtain ⟨_, _, _, hne, _⟩ := hit_of_go heq
  exact hne

theorem eq_take (h : IsHit hitLength s before word after)
    : word = (word ++ after).take (hitLength before.getLast? (word ++ after)) := by
  obtain ⟨front, back, heq, rfl, rfl⟩ := h
  obtain ⟨gap, hfront, _, _, hword⟩ := hit_of_go heq
  rw [Option.or_none] at hword
  rwa [hfront]

end IsHit

theorem exists_isHit {s before rest : List Char} {c : Char} (hs : s = before ++ c :: rest)
    (h : hitLength before.getLast? (c :: rest) ≠ 0)
    : ∃ front word back, IsHit hitLength s front word back
        ∧ front.length ≤ before.length ∧ before.length < front.length + word.length := by
  rw [← Option.or_none (o := before.getLast?)] at h
  obtain ⟨front, word, back, heq, hstart, hend⟩ := exists_hit_of_go [] hs h
  refine ⟨_, word, _, ⟨front, back, heq, rfl, rfl⟩, ?_, ?_⟩
  . simpa using hstart
  . simpa using hend

end DirectedMarkdown.Text
