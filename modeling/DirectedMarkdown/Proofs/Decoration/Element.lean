import DirectedMarkdown.Proofs.Decoration
import DirectedMarkdown.Proofs.Text.Scan

/-!
This module contains the elements in decorated text, read from its HTML: the text in each, and the
text before it.
-/

namespace DirectedMarkdown

open Html (Markup)
open Text (Span)

/-- The texts in the elements of a name, for the text that was passed before. -/
def Html.Markup.spansIn (name : String) (isInside : Bool) (passed : List Char)
    : List Markup → List Span
  | [] => []
  | .startTag other _ :: rest => spansIn name (other = name) passed rest
  | .text content :: rest =>
    if isInside then ⟨passed, content.toList⟩ :: spansIn name true (passed ++ content.toList) rest
    else spansIn name false (passed ++ content.toList) rest
  | _ :: rest => spansIn name false passed rest

/-- The name of the element that a segment becomes. -/
def Segment.element? : Segment → Option String
  | plain _ => none
  | abbreviation _ _ => some "abbr"
  | link _ => some "a"

namespace Decorator

variable {decorator : Decorator} {name : String} {passed : List Char}

theorem spansIn_markup_of_eq {segment : Segment} (h : segment.element? = some name)
    (rest : List Markup)
    : Markup.spansIn name false passed (decorator.markup segment ++ rest)
        = ⟨passed, segment.content⟩
          :: Markup.spansIn name false (passed ++ segment.content) rest := by
  cases segment with
  | plain _ => simp [Segment.element?] at h
  | abbreviation _ _ | link _ =>
    obtain rfl := Option.some.inj h
    simp [markup, linkStart, Markup.spansIn, Segment.content]

theorem spansIn_markup_of_ne {segment : Segment} (h : segment.element? ≠ some name)
    (rest : List Markup)
    : Markup.spansIn name false passed (decorator.markup segment ++ rest)
        = Markup.spansIn name false (passed ++ segment.content) rest := by
  cases segment with
  | plain _ => simp [markup, Markup.spansIn, Segment.content]
  | abbreviation _ _ | link _ =>
    have hne : ¬_ = name := fun heq => h (congrArg some heq)
    simp [markup, linkStart, Markup.spansIn, Segment.content, hne]

theorem spansIn_flatMap_of_ne {segments : List Segment}
    (h : ∀ segment ∈ segments, segment.element? ≠ some name) (rest : List Markup)
    : Markup.spansIn name false passed (segments.flatMap decorator.markup ++ rest)
        = Markup.spansIn name false (passed ++ segments.flatMap Segment.content) rest := by
  induction segments generalizing passed with
  | nil => simp
  | cons segment others ih =>
    rw [List.forall_mem_cons] at h
    rw [List.flatMap_cons, List.append_assoc, spansIn_markup_of_ne h.1, ih h.2]
    rw [List.flatMap_cons, List.append_assoc]

/-- The texts in the elements of a name, where the text stays as it is without decoration. -/
def spansOf (decorator : Decorator) (name text : String) (inLink : Bool) : List Span :=
  Markup.spansIn name false [] ((decorator.decorate text inLink).getD [.text text])

theorem spansOf_eq (text : String) (inLink : Bool)
    : decorator.spansOf name text inLink
        = Markup.spansIn name false []
          ((decorator.segments text.toList inLink).flatMap decorator.markup) := by
  unfold spansOf decorate
  dsimp only
  split
  . rfl
  . next hplain =>
    rw [Bool.not_eq_true, List.any_eq_false] at hplain
    have hnone : ∀ segment ∈ decorator.segments text.toList inLink,
        segment.element? ≠ some name := by
      intro segment hmem
      cases segment with
      | plain _ => simp [Segment.element?]
      | abbreviation _ _ | link _ => exact absurd rfl (hplain _ hmem)
    rw [← List.append_nil (List.flatMap _ _), spansIn_flatMap_of_ne hnone]
    rfl

end Decorator

end DirectedMarkdown
