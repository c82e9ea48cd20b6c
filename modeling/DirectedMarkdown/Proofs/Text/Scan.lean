import DirectedMarkdown.Proofs.Text.Cut

/-!
This module contains scans of a text: the spans that are found in it from left to right, where each
is the first match behind the span before it, and the longest one there. The hits of `cut` are the
spans of a scan.
-/

namespace DirectedMarkdown.Text

/-- A part of a text, with what is before it. -/
structure Span where
  before : List Char
  word : List Char
  deriving DecidableEq

namespace Span

/-- The place behind the span. -/
def stop (span : Span) : Nat :=
  span.before.length + span.word.length

/-- The place lies in the span. -/
def Covers (span : Span) (place : Nat) : Prop :=
  span.before.length ≤ place ∧ place < span.stop

theorem not_covers_later {span later : Span} {place : Nat} (h : span.Covers place)
    (hlater : span.stop ≤ later.before.length) : ¬later.Covers place := by
  intro hcovers
  have hstop := h.2
  have hstart := hcovers.1
  omega

end Span

/--
The scan of a text from the place `start` on. What counts as a match depends on what is before it
and on what is behind it.
-/
inductive Scan (Matches : List Char → List Char → List Char → Prop) (s : List Char)
    : Nat → List Span → Prop where
  | finish {start : Nat}
    (hnone : ∀ before word after, s = before ++ word ++ after → start ≤ before.length →
      ¬Matches before word after)
    : Scan Matches s start []
  | find {start : Nat} {before word after : List Char} {rest : List Span}
    (hs : s = before ++ word ++ after) (hstart : start ≤ before.length)
    (hmatch : Matches before word after)
    (hfirst : ∀ before' word' after', s = before' ++ word' ++ after' → start ≤ before'.length →
      Matches before' word' after' → before.length ≤ before'.length)
    (hlongest : ∀ word' after', s = before ++ word' ++ after' → Matches before word' after' →
      word'.length ≤ word.length)
    (hrest : Scan Matches s (before.length + word.length) rest)
    : Scan Matches s start (⟨before, word⟩ :: rest)

namespace Scan

variable {Matches : List Char → List Char → List Char → Prop} {s : List Char} {start : Nat}
  {spans : List Span}

theorem unique {others : List Span} (h : Scan Matches s start spans)
    (hother : Scan Matches s start others) : spans = others := by
  induction h generalizing others with
  | finish hnone =>
    cases hother with
    | finish _ => rfl
    | find hs hstart hmatch _ _ _ => exact absurd hmatch (hnone _ _ _ hs hstart)
  | find hs hstart hmatch hfirst hlongest _ ih =>
    cases hother with
    | finish hnone => exact absurd hmatch (hnone _ _ _ hs hstart)
    | find hs' hstart' hmatch' hfirst' hlongest' hrest' =>
      have hbefore := Nat.le_antisymm (hfirst _ _ _ hs' hstart' hmatch')
        (hfirst' _ _ _ hs hstart hmatch)
      rw [hs, List.append_assoc, List.append_assoc] at hs'
      obtain ⟨rfl, htail⟩ := List.append_inj hs' hbefore
      rw [hs, List.append_assoc] at hlongest hlongest'
      have hword := Nat.le_antisymm
        (hlongest' _ _ (List.append_assoc _ _ _).symm hmatch)
        (hlongest _ _ (by rw [htail, List.append_assoc]) hmatch')
      obtain ⟨rfl, rfl⟩ := List.append_inj htail hword
      rw [ih hrest']

theorem le_before (h : Scan Matches s start spans)
    : ∀ span ∈ spans, start ≤ span.before.length := by
  induction h with
  | finish _ => simp
  | find _ hstart _ _ _ _ ih =>
    rw [List.forall_mem_cons]
    refine ⟨hstart, fun span hmem => ?_⟩
    have := ih span hmem
    omega

theorem exists_matches (h : Scan Matches s start spans)
    : ∀ span ∈ spans, ∃ after, s = span.before ++ span.word ++ after
        ∧ Matches span.before span.word after := by
  induction h with
  | finish _ => simp
  | find hs _ hmatch _ _ _ ih =>
    rw [List.forall_mem_cons]
    exact ⟨⟨_, hs, hmatch⟩, ih⟩

/-- The spans of a scan do not overlap. -/
theorem pairwise (h : Scan Matches s start spans)
    : spans.Pairwise (fun span later => span.stop ≤ later.before.length) := by
  induction h with
  | finish _ => exact List.Pairwise.nil
  | find _ _ _ _ _ hrest ih => exact List.pairwise_cons.mpr ⟨hrest.le_before, ih⟩

/-- A place where something matches lies in a span. -/
theorem exists_covers (h : Scan Matches s start spans) {before word after : List Char}
    (hs : s = before ++ word ++ after) (hstart : start ≤ before.length)
    (hmatch : Matches before word after) : ∃ span ∈ spans, span.Covers before.length := by
  induction h with
  | finish hnone => exact absurd hmatch (hnone _ _ _ hs hstart)
  | @find _ front found _ rest _ _ _ hfirst _ _ ih =>
    by_cases hbehind : front.length + found.length ≤ before.length
    . obtain ⟨span, hmem, hcovers⟩ := ih hbehind
      exact ⟨span, List.mem_cons_of_mem _ hmem, hcovers⟩
    . refine ⟨_, List.mem_cons_self, hfirst _ _ _ hs hstart hmatch, ?_⟩
      show before.length < front.length + found.length
      omega

theorem eq_of_covers (h : Scan Matches s start spans) {span other : Span} (hspan : span ∈ spans)
    (hother : other ∈ spans) {place : Nat} (hcovers : span.Covers place)
    (hcovers' : other.Covers place) : span = other := by
  induction h with
  | finish _ => simp at hspan
  | find _ _ _ _ _ hrest ih =>
    rw [List.mem_cons] at hspan hother
    rcases hspan with rfl | hspan
    . rcases hother with rfl | hother
      . rfl
      . exact absurd hcovers' (Span.not_covers_later hcovers (hrest.le_before other hother))
    . rcases hother with rfl | hother
      . exact absurd hcovers (Span.not_covers_later hcovers' (hrest.le_before span hspan))
      . exact ih hspan hother

end Scan

/-- The hits among pieces of a text, for what was passed before them. -/
def hitSpans (passed : List Char) : List Piece → List Span
  | [] => []
  | .plain content :: rest => hitSpans (passed ++ content) rest
  | .hit word :: rest => ⟨passed, word⟩ :: hitSpans (passed ++ word) rest

theorem hitSpans_plainPiece (passed reversed : List Char) (rest : List Piece)
    : hitSpans passed (plainPiece reversed ++ rest)
        = hitSpans (passed ++ reversed.reverse) rest := by
  unfold plainPiece
  split
  . next h =>
    rw [List.isEmpty_iff.mp h]
    simp
  . rfl

/-- A search that finds the longest match at each place. -/
structure Finds (hitLength : Option Char → List Char → Nat)
    (Matches : List Char → List Char → List Char → Prop) : Prop where
  ne_nil : ∀ {before word after}, Matches before word after → word ≠ []
  zero : ∀ {before word after}, hitLength before.getLast? (word ++ after) = 0 →
    ¬Matches before word after
  longest : ∀ {before s}, hitLength before.getLast? s ≠ 0 → ∃ word after, s = word ++ after
    ∧ word.length = hitLength before.getLast? s ∧ Matches before word after
    ∧ ∀ word' after', s = word' ++ after' → Matches before word' after' →
      word'.length ≤ word.length

variable {hitLength : Option Char → List Char → Nat}
  {Matches : List Char → List Char → List Char → Prop}

theorem eq_of_length_eq {whole here s before word after : List Char} (hwhole : whole = here ++ s)
    (h : whole = before ++ word ++ after) (hlength : before.length = here.length)
    : before = here ∧ s = word ++ after := by
  rw [hwhole, List.append_assoc] at h
  obtain ⟨rfl, hs⟩ := List.append_inj h hlength.symm
  exact ⟨rfl, hs⟩

theorem scan_go (hfinds : Finds hitLength Matches) (front : List Char) {whole : List Char}
    {before : Option Char} {plain s : List Char}
    (hbefore : before = (front ++ plain.reverse).getLast?)
    (hwhole : whole = front ++ plain.reverse ++ s)
    (hpassed : ∀ before' word' after', whole = before' ++ word' ++ after' →
      front.length ≤ before'.length → before'.length < front.length + plain.length →
      ¬Matches before' word' after')
    : Scan Matches whole front.length (hitSpans front (cut.go hitLength before plain s)) := by
  fun_induction cut.go hitLength before plain s generalizing front with
  | case1 before plain =>
    rw [← List.append_nil (plainPiece plain), hitSpans_plainPiece]
    apply Scan.finish
    intro before' word' after' heq hfront hmatch
    apply hpassed before' word' after' heq hfront _ hmatch
    have hlength := congrArg List.length (hwhole.symm.trans heq)
    have hword := List.length_pos_iff.mpr (hfinds.ne_nil hmatch)
    simp only [List.length_append, List.length_reverse, List.length_nil] at hlength
    omega
  | case2 before plain c rest hlength ih =>
    apply ih
    . simp
    . simpa using hwhole
    . intro before' word' after' heq hfront hplain hmatch
      rw [List.length_cons] at hplain
      by_cases hbehind : before'.length < front.length + plain.length
      . exact hpassed before' word' after' heq hfront hbehind hmatch
      . -- The place is the one at which the search has found nothing.
        obtain ⟨rfl, hrest⟩ := eq_of_length_eq hwhole heq (by simp; omega)
        rw [hbefore, hrest] at hlength
        exact hfinds.zero hlength hmatch
  | case3 before plain c rest n hlength ih =>
    rw [hbefore] at hlength
    have hfound : hitLength (front ++ plain.reverse).getLast? (c :: rest) ≠ 0 := by
      rw [hlength]
      exact Nat.succ_ne_zero n
    obtain ⟨word, after, hrest, hword, hmatch, hlongest⟩ := hfinds.longest hfound
    rw [hlength] at hword
    have htake : c :: rest.take n = word := by
      rw [← List.take_succ_cons, hrest]
      exact List.take_left' hword
    have hdrop : rest.drop n = after := by
      rw [← List.drop_succ_cons (a := c), hrest]
      exact List.drop_left' hword
    have hlast : some ((rest.take n).getLastD c) = (front ++ plain.reverse ++ word).getLast? := by
      rw [← htake, List.getLast?_append, List.getLast?_cons, List.getLastD_eq_getLast?]
      rfl
    have hparts : whole = front ++ plain.reverse ++ word ++ after := by
      rw [hwhole, hrest, List.append_assoc _ word]
    rw [hitSpans_plainPiece, htake]
    apply Scan.find hparts
    . simp
    . exact hmatch
    . intro before' word' after' heq hfront hmatch'
      apply Nat.le_of_not_lt
      intro hbehind
      apply hpassed before' word' after' heq hfront _ hmatch'
      simpa using hbehind
    . intro word' after' heq hmatch'
      obtain ⟨_, hsame⟩ := eq_of_length_eq hwhole heq rfl
      exact hlongest word' after' hsame hmatch'
    . have hnext := ih (front ++ plain.reverse ++ word) (by simpa using hlast)
        (by simpa [hdrop] using hparts) (by simp; omega)
      rw [List.length_append] at hnext
      exact hnext

/-- The hits of a search that finds the longest match at each place are the spans of a scan. -/
theorem scan_cut (hfinds : Finds hitLength Matches) (s : List Char)
    : Scan Matches s 0 (hitSpans [] (cut hitLength s)) :=
  scan_go hfinds [] rfl rfl (by simp)

theorem scan_iff_eq_hitSpans (hfinds : Finds hitLength Matches) (s : List Char) (spans : List Span)
    : Scan Matches s 0 spans ↔ spans = hitSpans [] (cut hitLength s) := by
  constructor
  . intro h
    exact h.unique (scan_cut hfinds s)
  . rintro rfl
    exact scan_cut hfinds s

end DirectedMarkdown.Text
