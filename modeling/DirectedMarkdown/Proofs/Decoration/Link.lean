import DirectedMarkdown.Proofs.Decoration.Element
import DirectedMarkdown.Proofs.Url.Pattern

/-!
This module contains the links to bare URLs in decorated text. They are found from left to right,
and each bare URL of the text lies in just one of them.
-/

namespace DirectedMarkdown

open Html (Markup)
open Text (Scan Span hitSpans)

namespace Decorator

variable (decorator : Decorator)

/-- The links to bare URLs in a text. -/
def linked (text : String) : List Span :=
  decorator.spansOf "a" text false

theorem spansIn_gapSegments (passed content : List Char) (rest : List Markup)
    : Markup.spansIn "a" false passed
        ((decorator.gapSegments content).flatMap decorator.markup ++ rest)
        = Markup.spansIn "a" false (passed ++ content) rest := by
  have hnone : ∀ segment ∈ decorator.gapSegments content, segment.element? ≠ some "a" := by
    intro segment hmem
    obtain ⟨piece, _, rfl⟩ := List.mem_map.mp hmem
    cases piece with
    | plain _ | hit _ => simp [Segment.element?, abbreviated]
  rw [spansIn_flatMap_of_ne hnone, flatMap_content_gapSegments]

theorem spansIn_segments {segmentsOf : Text.Piece → List Segment}
    (hplain : ∀ content, segmentsOf (.plain content) = decorator.gapSegments content)
    (hhit : ∀ url, segmentsOf (.hit url) = [.link url]) (passed : List Char)
    (pieces : List Text.Piece)
    : Markup.spansIn "a" false passed ((pieces.flatMap segmentsOf).flatMap decorator.markup)
        = hitSpans passed pieces := by
  induction pieces generalizing passed with
  | nil => rfl
  | cons piece rest ih =>
    rw [List.flatMap_cons, List.flatMap_append]
    cases piece with
    | plain content =>
      rw [hplain, spansIn_gapSegments, ih]
      rfl
    | hit url =>
      rw [hhit, List.flatMap_singleton, spansIn_markup_of_eq rfl, ih]
      rfl

variable {decorator}

theorem linked_eq_hitSpans (hlinked : decorator.urlsLinked = true) (text : String)
    : decorator.linked text = hitSpans [] (Url.cutBare text.toList) := by
  unfold linked
  rw [spansOf_eq]
  unfold segments
  rw [hlinked]
  exact decorator.spansIn_segments (fun _ => rfl) (fun _ => rfl) [] _

theorem scan_iff_eq_linked (hlinked : decorator.urlsLinked = true) (text : String)
    (spans : List Span)
    : Scan Url.IsBare text.toList 0 spans ↔ spans = decorator.linked text := by
  rw [linked_eq_hitSpans hlinked]
  exact Text.scan_iff_eq_hitSpans Url.finds_bareLength text.toList spans

/-- A bare URL of the text lies in the link that covers its start. -/
theorem exists_link (hlinked : decorator.urlsLinked = true) {text : String}
    {before url after : List Char} (htext : text.toList = before ++ url ++ after)
    (h : Url.IsBare before url after)
    : ∃ span ∈ decorator.linked text,
        span.Covers before.length ∧ before.length + url.length ≤ span.stop := by
  have hscan := (scan_iff_eq_linked hlinked text _).mpr rfl
  obtain ⟨span, hmem, hcovers⟩ := hscan.exists_covers htext (Nat.zero_le _) h
  refine ⟨span, hmem, hcovers, ?_⟩
  obtain ⟨behind, hspan, hbare⟩ := hscan.exists_matches span hmem
  rw [List.append_assoc] at hspan htext
  obtain ⟨front, rfl⟩ : span.before <+: before :=
    List.prefix_of_prefix_length_le ⟨_, hspan.symm⟩ ⟨_, htext.symm⟩ hcovers.1
  have heq := hspan.symm.trans htext
  rw [List.append_assoc] at heq
  have hinside : front.length < span.word.length := by
    have := hcovers.2
    unfold Span.stop at this
    rw [List.length_append] at this
    omega
  have hlength := hbare.length_eq h (List.append_cancel_left heq) hinside
  unfold Span.stop
  rw [List.length_append]
  omega

end Decorator

/--
Where URLs are linked, the bare ones are found from left to right, just as the pattern finds them.
Each link ends with a character of a word or with a slash, and each bare URL of the text is in one
link and in no other.
-/
theorem bare_urls_linked (decorator : Decorator) (hlinked : decorator.urlsLinked = true)
    (text : String)
    : (∀ spans, Scan Url.IsBare text.toList 0 spans ↔ spans = decorator.linked text)
      ∧ (∀ span ∈ decorator.linked text,
        Text.isWordAt span.word.getLast? ∨ span.word.getLast? = some '/')
      ∧ (decorator.linked text).Pairwise (fun span later => span.stop ≤ later.before.length)
      ∧ (∀ before url after, text.toList = before ++ url ++ after → Url.IsBare before url after →
        ∃! span, span ∈ decorator.linked text
          ∧ span.before.length ≤ before.length ∧ before.length + url.length ≤ span.stop)
      ∧ Text.cut Url.pattern.matchLength text.toList = Url.cutBare text.toList := by
  have hscan := (Decorator.scan_iff_eq_linked hlinked text _).mpr rfl
  refine ⟨Decorator.scan_iff_eq_linked hlinked text, ?_, hscan.pairwise, ?_, ?_⟩
  . intro span hmem
    obtain ⟨behind, _, hbare⟩ := hscan.exists_matches span hmem
    exact hbare.getLast?
  . intro before url after htext h
    obtain ⟨span, hmem, hcovers, hstop⟩ := Decorator.exists_link hlinked htext h
    refine ⟨span, ⟨hmem, hcovers.1, hstop⟩, ?_⟩
    rintro other ⟨hother, hstart, hend⟩
    have hurl := List.length_pos_iff.mpr h.ne_nil
    exact hscan.eq_of_covers hother hmem ⟨hstart, by omega⟩ hcovers
  . rw [Url.matchLength_pattern]
    rfl

/-- The slash at the end is part of the link, the full stop behind it is not. -/
theorem bare_urls_linked_slash
    : let decorator : Decorator :=
        { abbreviations := .empty, urlsLinked := true, urlAttributes := .empty }
      let text := "At http://a.b/?u=http://c/."
      decorator.urlsLinked = true
        ∧ decorator.linked text = [⟨"At ".toList, "http://a.b/?u=http://c/".toList⟩]
        ∧ Scan Url.IsBare text.toList 0 [⟨"At ".toList, "http://a.b/?u=http://c/".toList⟩] := by
  intro decorator text
  have hspans : decorator.linked text
      = [⟨"At ".toList, "http://a.b/?u=http://c/".toList⟩] := by
    decide +kernel
  exact ⟨rfl, hspans, ((bare_urls_linked decorator rfl text).1 _).mpr hspans.symm⟩

end DirectedMarkdown
