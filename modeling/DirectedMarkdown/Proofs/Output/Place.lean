import DirectedMarkdown.Proofs.Markdown.Admitted
import DirectedMarkdown.Proofs.Output.OpenImage

/-!
This module contains the place of a state in a document: the images, links and code blocks that are
open in the state are those that are open in the document. Links and code blocks in images do not
count.
-/

namespace DirectedMarkdown

open Markdown (Event PartsAdmitted Tag everywhere openOutside)

namespace Styling

variable {style : Style} {state : Styling} {event : Event} {events : List Event} {outer : List Tag}

/-- The state of a document where these parts are open. -/
structure Placed (outer : List Tag) (state : Styling) : Prop where
  images : state.openImages = outer.countP Tag.isImage
  links : state.linkDepth = openOutside .link outer
  code : state.inCodeBlock → 0 < openOutside .codeBlock outer

theorem depths_push (state : Styling) (step : Output)
    : (state.push step).linkDepth = state.linkDepth
        ∧ (state.push step).inCodeBlock = state.inCodeBlock := by
  unfold push
  split <;> exact ⟨rfl, rfl⟩

theorem depths_collect (style : Style) (state : Styling) (image : PendingImage) (event : Event)
    : (state.collect style image event).linkDepth = state.linkDepth
        ∧ (state.collect style image event).inCodeBlock = state.inCodeBlock := by
  cases event with
  | enter tag => cases tag <;> exact ⟨rfl, rfl⟩
  | leave element =>
    cases element with
    | image =>
      dsimp only [collect]
      split
      . exact ⟨rfl, rfl⟩
      . exact depths_push _ _
    | _ => exact ⟨rfl, rfl⟩
  | _ => exact ⟨rfl, rfl⟩

theorem depths_visit (style : Style) (state : Styling) (event : Event)
    : (state.visit style event).linkDepth
          = (match event with
            | .enter (.link _ _ _) => state.linkDepth + 1
            | .leave .link => state.linkDepth - 1
            | _ => state.linkDepth)
        ∧ (state.visit style event).inCodeBlock
          = match event with
            | .enter (.codeBlock _) => true
            | .leave .codeBlock => false
            | _ => state.inCodeBlock := by
  cases event with
  | enter tag => cases tag <;> first | exact ⟨rfl, rfl⟩ | exact depths_push _ _
  | leave element => cases element <;> first | exact ⟨rfl, rfl⟩ | exact depths_push _ _
  | text content =>
    simp only [visit, text]
    split
    . exact depths_push _ _
    . split <;> exact depths_push _ _
  | softBreak =>
    simp only [visit]
    split <;> exact depths_push _ _
  | _ => exact depths_push _ _

theorem Placed.any_isImage (h : Placed outer state)
    : outer.any Tag.isImage = state.image.isSome := by
  rw [Bool.eq_iff_iff, List.any_eq_true, ← List.countP_pos_iff, ← h.images]
  unfold openImages
  cases state.image <;> simp

theorem Placed.step (h : Placed outer state) (hcloses : event.closes outer)
    : Placed (event.opened outer) (step style state event) := by
  have himages : (Styling.step style state event).openImages
      = (event.opened outer).countP Tag.isImage := openImages_step h.images hcloses
  have hany := h.any_isImage
  cases himage : state.image with
  | some image =>
    obtain ⟨hlinks, hcode⟩ := depths_collect style state image event
    have hstep : Styling.step style state event = state.collect style image event := by
      simp [Styling.step, himage]
    rw [himage] at hany
    refine ⟨himages, ?_, ?_⟩
    . rw [hstep, hlinks, Markdown.openOutside_opened_of_image (by simp) hany hcloses]
      exact h.links
    . rw [hstep, hcode, Markdown.openOutside_opened_of_image (by simp) hany hcloses]
      exact h.code
  | none =>
    obtain ⟨hlinks, hcode⟩ := depths_visit style state event
    have hstep : Styling.step style state event = state.visit style event := by
      simp [Styling.step, himage]
    rw [himage] at hany
    refine ⟨himages, ?_, ?_⟩
    . rw [hstep, hlinks, h.links, Markdown.openOutside_opened _ hany hcloses]
      cases event with
      | enter tag => cases tag <;> rfl
      | leave element => cases element <;> rfl
      | _ => rfl
    . rw [hstep, hcode, Markdown.openOutside_opened _ hany hcloses]
      have hbefore := h.code
      cases event with
      | enter tag => cases tag <;> simp_all [Tag.element]
      | leave element => cases element <;> simp_all
      | _ => exact hbefore

theorem Placed.foldl_step (style : Style) (h : Placed outer state)
    (hcloses : everywhere Event.closes outer events)
    : Placed (events.foldl Event.opened outer) (events.foldl (Styling.step style) state) := by
  induction events generalizing outer state with
  | nil => exact h
  | cons event rest ih =>
    simp only [everywhere, Bool.and_eq_true] at hcloses
    exact ih (h.step hcloses.1) hcloses.2

theorem placed_start : Placed [] start :=
  ⟨rfl, rfl, by simp [start]⟩

/--
The state of a document where these parts are open, and each of them is admitted by those that it
stands in.
-/
structure Situated (outer : List Tag) (state : Styling) : Prop extends Placed outer state where
  admitted : PartsAdmitted outer
  inCode : 0 < openOutside .codeBlock outer → state.inCodeBlock

theorem situated_start : Situated [] start :=
  ⟨placed_start, Markdown.partsAdmitted_nil, by simp [openOutside]⟩

namespace Situated

theorem step (h : Situated outer state) (hcloses : event.closes outer)
    (hadmitted : event.isAdmitted outer)
    : Situated (event.opened outer) (step style state event) := by
  have hplaced : Placed (event.opened outer) (Styling.step style state event) :=
    h.toPlaced.step hcloses
  refine ⟨hplaced, h.admitted.opened hadmitted, ?_⟩
  have hany := h.any_isImage
  have hbefore := h.inCode
  intro hopen
  cases himage : state.image with
  | some image =>
    have hstep : Styling.step style state event = state.collect style image event := by
      simp [Styling.step, himage]
    rw [himage] at hany
    rw [Markdown.openOutside_opened_of_image (by simp) hany hcloses] at hopen
    rw [hstep, (depths_collect style state image event).2]
    exact hbefore hopen
  | none =>
    have hstep : Styling.step style state event = state.visit style event := by
      simp [Styling.step, himage]
    rw [hstep, (depths_visit style state event).2]
    cases event with
    | enter tag =>
      rw [himage] at hany
      rw [Markdown.openOutside_opened _ hany hcloses] at hopen
      cases tag <;> simp_all [Tag.element]
    | leave element =>
      -- Whatever ends, no code block is open around it.
      rw [Event.opened, Markdown.openOutside_codeBlock_tail h.admitted] at hopen
      simp at hopen
    | _ => exact hbefore hopen

theorem foldl_step (style : Style) (h : Situated outer state)
    (hcloses : everywhere Event.closes outer events)
    (hadmitted : everywhere Event.isAdmitted outer events)
    : Situated (events.foldl Event.opened outer) (events.foldl (Styling.step style) state) := by
  induction events generalizing outer state with
  | nil => exact h
  | cons event rest ih =>
    simp only [everywhere, Bool.and_eq_true] at hcloses hadmitted
    exact ih (h.step hcloses.1 hadmitted.1) hcloses.2 hadmitted.2

/-- No link is open where something stands that may not stand in links. -/
theorem linkDepth_eq_zero (h : Situated outer state) (hadmitted : event.isAdmitted outer)
    (hevent : event.standsInLink = false) : state.linkDepth = 0 :=
  h.links.trans (Markdown.openOutside_link_eq_zero hadmitted hevent)

theorem linkDepth_of_cons {tag : Tag} (h : Situated (tag :: outer) state)
    (himage : state.image = none) (htag : (Event.enter tag).standsInLink = false)
    : state.linkDepth = if tag.element = .link then 1 else 0 := by
  have hany := h.any_isImage
  rw [himage, List.any_cons, Option.isSome_none, Bool.or_eq_false_iff] at hany
  have hadmitted := (Markdown.partsAdmitted_cons.mp h.admitted).1
  rw [h.links, openOutside, Markdown.openOutside_link_eq_zero hadmitted htag, Nat.add_zero]
  simp [hany.2]

end Situated

end Styling

end DirectedMarkdown
