import DirectedMarkdown.Proofs.Abbreviation.Pattern
import DirectedMarkdown.Proofs.Abbreviation.WholeWord
import DirectedMarkdown.Proofs.Decoration.Element
import DirectedMarkdown.Proofs.List.Lookup

/-!
This module contains the abbreviations that are wrapped in a text without links to bare URLs. They
are found from left to right, the longest one at each place, so that the order of the definitions
does not matter.
-/

namespace DirectedMarkdown

open Html (Markup)
open Text (Finds Scan Span hitSpans)

namespace Abbreviation

/-- One of the words, from a word boundary to a word boundary. -/
def Matches (words : List (List Char)) (before word after : List Char) : Prop :=
  word ∈ words ∧ word ≠ [] ∧ Text.isBoundary before.getLast? word.head?
    ∧ Text.isBoundary word.getLast? after.head?

theorem matches_iff {words : List (List Char)} {before word after : List Char}
    : Matches words before word after
        ↔ word ∈ words ∧ occursAt word (word ++ after)
          ∧ Text.isBoundary before.getLast? (word ++ after).head? := by
  unfold Matches
  rw [occursAt_append_iff]
  constructor
  . rintro ⟨hmem, hne, hstart, hend⟩
    rw [head?_append_of_ne_nil hne]
    exact ⟨hmem, ⟨hne, hend⟩, hstart⟩
  . rintro ⟨hmem, ⟨hne, hend⟩, hstart⟩
    rw [head?_append_of_ne_nil hne] at hstart
    exact ⟨hmem, hne, hstart, hend⟩

theorem finds_occurrenceLength (words : List (List Char))
    : Finds (occurrenceLength words) (Matches words) := by
  constructor
  . rintro before word after ⟨_, hne, _⟩
    exact hne
  . intro before word after hzero hmatch
    obtain ⟨hmem, hoccurs, hstart⟩ := matches_iff.mp hmatch
    exact occurrenceLength_ne_zero_iff.mpr ⟨hstart, word, hmem, hoccurs⟩ hzero
  . intro before s hlength
    have hstart := (occurrenceLength_ne_zero_iff.mp hlength).1
    obtain ⟨word, hmem, hoccurs, heq⟩ := exists_length_eq_occurrenceLength hlength
    obtain ⟨after, rfl⟩ : word <+: s := by
      simp only [occursAt, Bool.and_eq_true] at hoccurs
      exact List.isPrefixOf_iff_prefix.mp hoccurs.1.2
    refine ⟨word, after, rfl, heq, matches_iff.mpr ⟨hmem, hoccurs, hstart⟩, ?_⟩
    intro word' after' hsame hmatch'
    rw [heq]
    obtain ⟨hmem', hoccurs', hstart'⟩ := matches_iff.mp hmatch'
    rw [← hsame] at hoccurs' hstart'
    exact le_occurrenceLength hstart' hmem' hoccurs'

end Abbreviation

namespace Decorator

variable (decorator : Decorator)

/-- What is wrapped as an abbreviation in a text without links to bare URLs. -/
def wrapped (s : List Char) : List Span :=
  Markup.spansIn "abbr" false [] ((decorator.gapSegments s).flatMap decorator.markup)

theorem spansIn_map_segment (passed : List Char) (pieces : List Text.Piece)
    : Markup.spansIn "abbr" false passed
        ((pieces.map decorator.segment).flatMap decorator.markup)
        = hitSpans passed pieces := by
  induction pieces generalizing passed with
  | nil => rfl
  | cons piece rest ih =>
    rw [List.map_cons, List.flatMap_cons]
    cases piece with
    | plain content =>
      rw [spansIn_markup_of_ne (by simp [segment, Segment.element?])]
      exact ih _
    | hit word =>
      rw [spansIn_markup_of_eq rfl]
      exact congrArg (_ :: ·) (ih _)

theorem wrapped_eq_hitSpans (s : List Char)
    : decorator.wrapped s = hitSpans [] (Abbreviation.cutAt decorator.words s) := by
  unfold wrapped
  rw [gapSegments_eq_map, spansIn_map_segment]

theorem scan_iff_eq_wrapped (s : List Char) (spans : List Span)
    : Scan (Abbreviation.Matches decorator.words) s 0 spans ↔ spans = decorator.wrapped s := by
  rw [wrapped_eq_hitSpans]
  exact Text.scan_iff_eq_hitSpans (Abbreviation.finds_occurrenceLength decorator.words) s spans

section

variable {decorator} {abbreviations : PropertyList}
  (h : abbreviations.entries.Perm decorator.abbreviations.entries)

include h

theorem perm_words : { decorator with abbreviations }.words.Perm decorator.words := by
  unfold words PropertyList.keys
  exact ((h.map Prod.fst).map String.toList).filter _

theorem gapSegments_eq_of_perm (s : List Char)
    : { decorator with abbreviations }.gapSegments s = decorator.gapSegments s := by
  have hsegment : { decorator with abbreviations }.segment = decorator.segment := by
    funext piece
    cases piece with
    | plain _ => rfl
    | hit word =>
      have hget : abbreviations.get? (String.ofList word)
          = decorator.abbreviations.get? (String.ofList word) :=
        lookup_eq_of_perm h abbreviations.nodup _
      show Segment.abbreviation word ((abbreviations.get? (String.ofList word)).getD "") = _
      rw [hget]
      rfl
  rw [gapSegments_eq_map, gapSegments_eq_map, hsegment]
  unfold Abbreviation.cutAt
  rw [Abbreviation.occurrenceLength_eq_of_perm (perm_words h)]

/-- The order of the abbreviations does not matter. -/
theorem decorate_eq_of_perm (text : String) (inLink : Bool)
    : { decorator with abbreviations }.decorate text inLink = decorator.decorate text inLink := by
  have hgaps : { decorator with abbreviations }.gapSegments = decorator.gapSegments :=
    funext fun s => gapSegments_eq_of_perm h s
  have hsegments : { decorator with abbreviations }.segments = decorator.segments := by
    unfold segments
    rw [hgaps]
  have hmarkup : { decorator with abbreviations }.markup = decorator.markup := by
    funext segment
    cases segment with
    | plain _ | abbreviation _ _ | link _ => rfl
  unfold decorate
  rw [hsegments, hmarkup]

end

end Decorator

/--
Abbreviations are wrapped from left to right. Each one is the first behind the one before, and the
longest at its place, just as a pattern finds them that tries those with more bytes first. So it
does not matter in which order the abbreviations are defined.
-/
theorem abbreviations_wrapped (decorator : Decorator)
    : (∀ s spans, Scan (Abbreviation.Matches decorator.words) s 0 spans
          ↔ spans = decorator.wrapped s)
      ∧ (∀ s, (∀ span ∈ decorator.wrapped s, span.word ≠ [])
          ∧ (decorator.wrapped s).Pairwise (fun span later => span.stop ≤ later.before.length))
      ∧ (∀ s, Text.cut (Abbreviation.pattern decorator.words).matchLength s
          = Abbreviation.cutAt decorator.words s)
      ∧ ∀ abbreviations : PropertyList,
        abbreviations.entries.Perm decorator.abbreviations.entries →
        ∀ text inLink, { decorator with abbreviations }.decorate text inLink
          = decorator.decorate text inLink := by
  refine ⟨decorator.scan_iff_eq_wrapped, ?_, ?_, ?_⟩
  . intro s
    have hscan := (decorator.scan_iff_eq_wrapped s _).mpr rfl
    refine ⟨?_, hscan.pairwise⟩
    intro span hmem
    obtain ⟨after, _, _, hne, _⟩ := hscan.exists_matches span hmem
    exact hne
  . intro s
    have hne : ∀ word ∈ decorator.words, word ≠ [] := by
      intro word hmem
      simpa [Decorator.words] using (List.mem_filter.mp hmem).2
    rw [Abbreviation.matchLength_pattern hne]
    rfl
  . intro abbreviations h text inLink
    exact Decorator.decorate_eq_of_perm h text inLink

/-- Where a longer abbreviation does not end at a word boundary, a shorter one is wrapped. -/
theorem abbreviations_wrapped_shorter
    : let decorator : Decorator :=
        { abbreviations := (PropertyList.empty.insert "a-b" "one").insert "a" "two"
          urlsLinked := false
          urlAttributes := .empty }
      let abbreviations := (PropertyList.empty.insert "a" "two").insert "a-b" "one"
      decorator.wrapped "a-b a-bc".toList
          = [⟨[], "a-b".toList⟩, ⟨"a-b ".toList, "a".toList⟩]
        ∧ Scan (Abbreviation.Matches decorator.words) "a-b a-bc".toList 0
          [⟨[], "a-b".toList⟩, ⟨"a-b ".toList, "a".toList⟩]
        ∧ ∀ text, { decorator with abbreviations }.decorate text false
          = decorator.decorate text false := by
  intro decorator abbreviations
  have hwrapped : decorator.wrapped "a-b a-bc".toList
      = [⟨[], "a-b".toList⟩, ⟨"a-b ".toList, "a".toList⟩] := by
    decide +kernel
  obtain ⟨hscan, _, _, hperm⟩ := abbreviations_wrapped decorator
  refine ⟨hwrapped, (hscan _ _).mpr hwrapped.symm, fun text => ?_⟩
  exact hperm abbreviations (List.Perm.swap _ _ _) text false

end DirectedMarkdown
