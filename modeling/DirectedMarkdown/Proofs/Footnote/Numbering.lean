import DirectedMarkdown.Proofs.List.FirstOccurrence
import DirectedMarkdown.Proofs.Markdown.NoteReference
import DirectedMarkdown.Proofs.Output.OpenImage

/-!
This module contains the numbers of footnotes: the table of references that is kept while a document
is read holds the labels in the order of their first references, each with the number of its
references so far.
-/

namespace DirectedMarkdown

open Markdown (Element Event Tag everywhere)

namespace Footnotes

/-- The labels in the order of their first references, with the numbers of their references. -/
def tally (references : List String) : List (String × Nat) :=
  references.eraseDups.map fun label => (label, references.count label)

theorem count_map (label : String) (labels : List String) (f : String → Nat)
    (hnodup : labels.Nodup)
    : count label (labels.map fun other => (other, f other))
        = if label ∈ labels then
            labels.map fun other => (other, if other = label then f other + 1 else f other)
          else
            (labels.map fun other => (other, f other)) ++ [(label, 1)] := by
  induction labels with
  | nil => rfl
  | cons first rest ih =>
    rw [List.nodup_cons] at hnodup
    rw [List.map_cons, count]
    by_cases h : first = label
    . subst h
      simp only [↓reduceIte, List.mem_cons, true_or, List.map_cons, List.cons.injEq, true_and]
      -- No label stands twice, so that none of the others is counted up.
      apply List.map_congr_left
      intro other hother
      have : other ≠ first := fun heq => hnodup.1 (heq ▸ hother)
      simp [this]
    . have hne : ¬label = first := fun heq => h heq.symm
      simp only [h, ↓reduceIte, List.mem_cons, hne, false_or]
      rw [ih hnodup.2]
      split <;> simp [h]

theorem count_tally (references : List String) (label : String)
    : count label (tally references) = tally (references ++ [label]) := by
  unfold tally
  rw [count_map label _ _ (nodup_eraseDups references)]
  rw [eraseDups_concat]
  simp only [List.mem_eraseDups]
  have hcount : ∀ other, (references ++ [label]).count other
      = if other = label then references.count other + 1 else references.count other := by
    intro other
    rw [List.count_append]
    by_cases h : other = label
    . simp [h]
    . have : ¬label = other := fun heq => h heq.symm
      simp [h, this]
  split
  . simp only [hcount]
  . next h =>
    rw [List.map_append]
    congr 1
    . apply List.map_congr_left
      intro other hother
      rw [List.mem_eraseDups] at hother
      have : other ≠ label := fun heq => h (heq ▸ hother)
      simp [hcount, this]
    . simp [hcount, List.count_eq_zero.mpr h]

theorem numberOf_tally (references : List String) (label : String)
    : numberOf label (tally references) = references.eraseDups.idxOf label + 1 := by
  unfold numberOf tally
  rw [List.findIdx_map]
  rfl

theorem lookup_tally {references : List String} {label : String} (h : label ∈ references)
    : (tally references).lookup label = some (references.count label) := by
  have hmem : label ∈ references.eraseDups := List.mem_eraseDups.mpr h
  unfold tally
  generalize references.eraseDups = labels at hmem
  induction labels with
  | nil => simp at hmem
  | cons first rest ih =>
    rw [List.map_cons, List.lookup_cons]
    by_cases heq : label = first
    . simp [heq]
    . have hrest := ih (by simpa [heq] using hmem)
      have : (label == first) = false := by simpa using heq
      simp [this, hrest]

end Footnotes

namespace Styling

variable {style : Style} {state : Styling} {outer : List Tag} {event : Event}

theorem referenced_visit
    : (state.visit style event).footnotes.referenced
        = match event with
          | .footnoteReference label => Footnotes.count label state.footnotes.referenced
          | _ => state.footnotes.referenced := by
  cases event with
  | enter tag =>
    cases tag with
    | _ => simp [visit, enter, write, keep, Footnotes.open]
  | leave element =>
    cases element with
    | footnoteDefinition =>
      simp only [visit, leave, Footnotes.close]
      split <;> rfl
    | _ => simp [visit, leave, write, keep]
  | text content =>
    simp only [visit, text]
    split
    . simp [keep]
    . split <;> simp [write, keep]
  | softBreak =>
    simp only [visit]
    split <;> simp [write, keep]
  | _ => simp [visit, reference, write, keep, Footnotes.refer]

theorem referenced_collect (image : PendingImage)
    : (state.collect style image event).footnotes.referenced = state.footnotes.referenced := by
  cases event with
  | enter tag => cases tag <;> rfl
  | leave element =>
    cases element with
    | image =>
      dsimp only [collect]
      split
      . rfl
      . simp [write]
    | _ => rfl
  | _ => rfl

theorem referenced_step (himages : state.openImages = outer.countP Tag.isImage)
    : (step style state event).footnotes.referenced
        = match event.referredLabel? outer with
          | some label => Footnotes.count label state.footnotes.referenced
          | none => state.footnotes.referenced := by
  have hany : outer.any Tag.isImage = state.image.isSome := by
    rw [Bool.eq_iff_iff, List.any_eq_true, ← List.countP_pos_iff, ← himages]
    unfold openImages
    cases state.image <;> simp
  unfold step
  split
  . next image himage =>
    rw [referenced_collect]
    cases event <;> simp [Event.referredLabel?, hany, himage]
  . next himage =>
    rw [referenced_visit]
    cases event <;> simp [Event.referredLabel?, hany, himage]

theorem tally_step {references : List String}
    (himages : state.openImages = outer.countP Tag.isImage)
    (htally : state.footnotes.referenced = Footnotes.tally references)
    : (step style state event).footnotes.referenced
        = Footnotes.tally (references ++ (event.referredLabel? outer).toList) := by
  rw [referenced_step himages]
  cases event.referredLabel? outer with
  | none => simpa using htally
  | some label =>
    rw [htally]
    exact Footnotes.count_tally references label

theorem tally_foldl_step {events : List Event} (references : List String)
    (himages : state.openImages = outer.countP Tag.isImage)
    (hcloses : everywhere Event.closes outer events)
    (htally : state.footnotes.referenced = Footnotes.tally references)
    : (events.foldl (step style) state).footnotes.referenced
        = Footnotes.tally (references ++ Markdown.referencesIn outer events) := by
  induction events generalizing outer state references with
  | nil => simpa [Markdown.referencesIn] using htally
  | cons event rest ih =>
    simp only [everywhere, Bool.and_eq_true] at hcloses
    rw [List.foldl_cons, Markdown.referencesIn, ← List.append_assoc]
    exact ih _ (openImages_step himages hcloses.1) hcloses.2 (tally_step himages htally)

end Styling

end DirectedMarkdown
