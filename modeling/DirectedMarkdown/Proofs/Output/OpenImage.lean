import DirectedMarkdown.Proofs.Markdown.OpenPart
import DirectedMarkdown.Proofs.Output.Emission

/-!
This module contains the images that are open in a state: they are those that are open in the
document. In an image, nothing but its alternative text changes.
-/

namespace DirectedMarkdown

namespace Markdown

/-- What an event adds to the alternative text of an image around it. -/
def Event.altText : Event → String
  | text content | code content => content
  | softBreak | hardBreak => " "
  | _ => ""

/-- The alternative text of an image with this content. -/
def altText (events : List Event) : String :=
  String.join (events.map Event.altText)

@[simp]
theorem altText_nil : altText [] = "" := rfl

theorem altText_cons (event : Event) (rest : List Event)
    : altText (event :: rest) = event.altText ++ altText rest := by
  unfold altText
  rw [List.map_cons, String.join_cons]

theorem altText_part (tag : Tag) (element : Element) (inner rest : List Event)
    : altText (.enter tag :: inner ++ .leave element :: rest) = altText inner ++ altText rest := by
  simp [altText, String.join_append, String.join_cons, Event.altText]

end Markdown

open Markdown (Element Event Tag WellNested altText)

namespace Styling

/-- The number of open images. -/
def openImages (state : Styling) : Nat :=
  match state.image with
  | none => 0
  | some image => image.depth + 1

theorem openImages_eq_zero_iff {state : Styling} : state.openImages = 0 ↔ state.image = none := by
  unfold openImages
  split
  . next h => simp [h]
  . next h => simp [h]

theorem image_eq_none_of_any {state : Styling} {outer : List Tag}
    (h : state.openImages = outer.countP Tag.isImage) (hany : outer.any Tag.isImage = false)
    : state.image = none := by
  rw [← openImages_eq_zero_iff, h, List.countP_eq_zero]
  simpa using hany

theorem openImages_visit (style : Style) (state : Styling) (event : Event)
    (himage : state.image = none)
    : (state.visit style event).openImages
        = match event with
          | .enter (.image _ _) => 1
          | _ => 0 := by
  have hnone : ∀ next : Styling, next.image = none → next.openImages = 0 :=
    fun next => openImages_eq_zero_iff.mpr
  cases event with
  | enter tag =>
    cases tag with
    | image url title => rfl
    | _ =>
      apply hnone
      simpa [visit, enter] using himage
  | leave element =>
    apply hnone
    cases element <;> simpa [visit, leave] using himage
  | text content =>
    apply hnone
    unfold visit text
    dsimp
    split
    . simpa using himage
    . split <;> simpa using himage
  | softBreak =>
    apply hnone
    unfold visit
    dsimp
    split <;> simpa using himage
  | _ =>
    apply hnone
    simpa [visit, reference] using himage

theorem openImages_collect (style : Style) (state : Styling) (image : PendingImage) (event : Event)
    (himage : state.image = some image)
    : (state.collect style image event).openImages
        = match event with
          | .enter (.image _ _) => image.depth + 2
          | .leave .image => image.depth
          | _ => image.depth + 1 := by
  cases event with
  | enter tag => cases tag <;> simp [collect, openImages, himage]
  | leave element =>
    cases element with
    | image =>
      dsimp only [collect]
      split
      . next h =>
        simp only [openImages]
        omega
      . next h =>
        simp only [openImages, write_image]
        omega
    | _ => simp [collect, openImages, himage]
  | _ => simp [collect, openImages, himage]

theorem openImages_step {style : Style} {state : Styling} {outer : List Tag} {event : Event}
    (himages : state.openImages = outer.countP Tag.isImage) (hcloses : event.closes outer)
    : (step style state event).openImages = (event.opened outer).countP Tag.isImage := by
  -- What ends is the innermost part, an image or not.
  have hleave : ∀ element, event = .leave element →
      outer.countP Tag.isImage
        = outer.tail.countP Tag.isImage + if element = .image then 1 else 0 := by
    intro element he
    subst he
    obtain ⟨tag, rest, houter, helement⟩ := Event.opened_of_closes hcloses
    rw [houter, List.countP_cons, List.tail_cons, Tag.isImage_eq_element, helement]
    simp
  unfold step
  split
  . next image himage =>
    rw [openImages_collect style state image event himage]
    rw [openImages, himage] at himages
    dsimp only at himages
    cases event with
    | enter tag => cases tag <;> simp_all [Event.opened, Tag.isImage, List.countP_cons]
    | leave element =>
      have := hleave element rfl
      cases element <;> simp_all [Event.opened]
    | _ => simp_all [Event.opened]
  . next himage =>
    rw [openImages_visit style state event himage]
    rw [openImages, himage] at himages
    dsimp only at himages
    cases event with
    | enter tag => cases tag <;> simp_all [Event.opened, Tag.isImage, List.countP_cons]
    | leave element =>
      have := hleave element rfl
      dsimp only [Event.opened]
      omega
    | _ => simp_all [Event.opened]

theorem openImages_foldl_step {style : Style} {state : Styling} {outer : List Tag}
    {events : List Event} (himages : state.openImages = outer.countP Tag.isImage)
    (hcloses : Markdown.everywhere Event.closes outer events)
    : (events.foldl (step style) state).openImages
        = (events.foldl Event.opened outer).countP Tag.isImage := by
  induction events generalizing outer state with
  | nil => exact himages
  | cons event rest ih =>
    simp only [Markdown.everywhere, Bool.and_eq_true] at hcloses
    exact ih (openImages_step himages hcloses.1) hcloses.2

theorem image_foldl_step (style : Style) {state : Styling} {events : List Event}
    (h : WellNested events) (himage : state.image = none)
    : (events.foldl (step style) state).image = none := by
  have himages : state.openImages = ([] : List Tag).countP Tag.isImage :=
    openImages_eq_zero_iff.mpr himage
  rw [← openImages_eq_zero_iff, openImages_foldl_step himages (h.everywhere_closes [])]
  rw [h.foldl_opened]
  rfl

section Image

variable (style : Style) {state : Styling} {image : PendingImage}
  (himage : state.image = some image)

include himage

theorem step_content_of_image {event : Event} (hcontent : event.isContent)
    : step style state event
        = { state with image := some { image with alt := image.alt ++ event.altText } } := by
  have hcollect : step style state event = state.collect style image event := by
    unfold step
    rw [himage]
  rw [hcollect]
  cases event with
  | enter tag => simp [Event.isContent] at hcontent
  | leave element => simp [Event.isContent] at hcontent
  | softBreak | hardBreak =>
    rw [collect, String.push_eq_append]
    rfl
  | text content | code content => rfl
  | _ =>
    show state = { state with image := some { image with alt := image.alt ++ "" } }
    rw [String.append_empty, ← himage]

theorem step_enter_of_image (tag : Tag)
    : step style state (.enter tag)
        = { state with
            image := some
              { image with depth := if tag.isImage then image.depth + 1 else image.depth } } := by
  unfold step
  rw [himage]
  cases tag <;> simp [Tag.isImage, collect, ← himage]

/-- The end of a part takes back what its start did. -/
theorem step_leave_of_image {tag : Tag} {depth : Nat}
    (hdepth : image.depth = if tag.isImage then depth + 1 else depth)
    : step style state (.leave tag.element)
        = { state with image := some { image with depth } } := by
  unfold step
  rw [himage]
  by_cases htag : tag.isImage
  . rw [if_pos htag] at hdepth
    rw [Tag.isImage_eq_element, beq_iff_eq] at htag
    rw [htag]
    simp [collect, hdepth]
  . rw [if_neg htag] at hdepth
    subst hdepth
    cases tag <;> simp [Tag.isImage] at htag <;> simp [Tag.element, collect, ← himage]

end Image

/-- The depth of an open image is the same behind whatever stands in the image. -/
theorem foldl_step_image (style : Style) {inner : List Event} (h : WellNested inner)
    {state : Styling} {image : PendingImage} (himage : state.image = some image)
    : inner.foldl (step style) state
        = { state with image := some { image with alt := image.alt ++ altText inner } } := by
  induction h generalizing state image with
  | nil =>
    rw [Markdown.altText_nil, String.append_empty, ← himage]
    rfl
  | content hcontent _ ih =>
    rw [List.foldl_cons, step_content_of_image style himage hcontent, ih rfl]
    rw [Markdown.altText_cons, String.append_assoc]
  | @part tag inner rest _ _ ihInner ihRest =>
    rw [Markdown.foldl_part, step_enter_of_image style himage tag, ihInner rfl]
    rw [step_leave_of_image style rfl rfl, ihRest rfl]
    rw [Markdown.altText_part, String.append_assoc]

/-- Behind an image, the state is as it was before the image, with one step added. -/
theorem step_leave_image (style : Style) {inner : List Event} (h : WellNested inner)
    {state : Styling} (himage : state.image = none) (url title : String)
    : step style (inner.foldl (step style) (step style state (.enter (.image url title))))
          (.leave .image)
        = state.push (.written [style.directives.imageTag url (altText inner) title]) := by
  have henter : step style state (.enter (.image url title))
      = { state with image := some { url, title, alt := "", depth := 0 } } := by
    unfold step
    rw [himage]
    rfl
  rw [henter, foldl_step_image style h rfl, String.empty_append]
  show { state with image := none }.push _ = _
  rw [← himage]

end Styling

end DirectedMarkdown
