import DirectedMarkdown.Proofs.List.Append
import DirectedMarkdown.Text.Cut

/-!
This module contains the laws of `cut`: the pieces make up the text again, and there is a hit among
them just if there is a place of the text where the search finds one.
-/

namespace DirectedMarkdown.Text

/-- Whether a piece is a hit. -/
def Piece.isHit : Piece → Bool
  | plain _ => false
  | hit _ => true

/-- There is a place of the text with a hit. -/
def HasHit (hitLength : Option Char → List Char → Nat) (s : List Char) : Prop :=
  ∃ before c after, s = before ++ c :: after ∧ hitLength before.getLast? (c :: after) ≠ 0

theorem flatMap_content_plainPiece (reversed : List Char)
    : (plainPiece reversed).flatMap Piece.content = reversed.reverse := by
  unfold plainPiece
  split
  . next h => simp [List.isEmpty_iff.mp h]
  . simp [Piece.content]

theorem any_isHit_plainPiece (reversed : List Char)
    : (plainPiece reversed).any Piece.isHit = false := by
  unfold plainPiece
  split <;> simp [Piece.isHit]

variable (hitLength : Option Char → List Char → Nat)

theorem flatMap_content_go (before : Option Char) (plain s : List Char)
    : (cut.go hitLength before plain s).flatMap Piece.content = plain.reverse ++ s := by
  fun_induction cut.go hitLength before plain s with
  | case1 before plain => simp [flatMap_content_plainPiece]
  | case2 before plain c rest hlength ih => simp [ih]
  | case3 before plain c rest n hlength ih =>
    rw [List.flatMap_append, List.flatMap_cons, ih, flatMap_content_plainPiece]
    simp [Piece.content]

theorem flatMap_content_cut (s : List Char) : (cut hitLength s).flatMap Piece.content = s :=
  flatMap_content_go hitLength none [] s

theorem any_isHit_go (before : Option Char) (plain s : List Char)
    : (cut.go hitLength before plain s).any Piece.isHit
        ↔ ∃ front c back, s = front ++ c :: back
            ∧ hitLength (front.getLast?.or before) (c :: back) ≠ 0 := by
  fun_induction cut.go hitLength before plain s with
  | case1 before plain => simp [any_isHit_plainPiece]
  | case2 before plain c rest hlength ih =>
    rw [ih]
    constructor
    . rintro ⟨front, d, back, rfl, hhit⟩
      exact ⟨c :: front, d, back, rfl, by rwa [getLast?_cons_or]⟩
    . rintro ⟨front, d, back, heq, hhit⟩
      cases front with
      | nil =>
        simp only [List.nil_append, List.cons.injEq] at heq
        obtain ⟨rfl, rfl⟩ := heq
        exact absurd hlength hhit
      | cons e front =>
        simp only [List.cons_append, List.cons.injEq] at heq
        obtain ⟨rfl, rfl⟩ := heq
        exact ⟨front, d, back, rfl, by rwa [← getLast?_cons_or]⟩
  | case3 before plain c rest n hlength ih =>
    simp only [List.any_append, List.any_cons, Piece.isHit, Bool.true_or, Bool.or_true, true_iff]
    exact ⟨[], c, rest, rfl, by simp [hlength]⟩

theorem any_isHit_cut_iff (s : List Char)
    : (cut hitLength s).any Piece.isHit ↔ HasHit hitLength s := by
  unfold cut HasHit
  rw [any_isHit_go]
  simp

theorem go_eq_plainPiece {before : Option Char} {plain s : List Char}
    (h : (cut.go hitLength before plain s).any Piece.isHit = false)
    : cut.go hitLength before plain s = plainPiece (s.reverse ++ plain) := by
  fun_induction cut.go hitLength before plain s with
  | case1 before plain => rfl
  | case2 before plain c rest hlength ih => simpa using ih h
  | case3 before plain c rest n hlength ih => simp [Piece.isHit] at h

theorem cut_eq_plainPiece {s : List Char} (h : ¬HasHit hitLength s)
    : cut hitLength s = plainPiece s.reverse := by
  rw [← any_isHit_cut_iff, Bool.not_eq_true] at h
  have := go_eq_plainPiece hitLength h
  rwa [List.append_nil] at this

end DirectedMarkdown.Text
