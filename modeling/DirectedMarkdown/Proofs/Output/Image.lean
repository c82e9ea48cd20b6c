import DirectedMarkdown.Proofs.Output.OpenImage
import DirectedMarkdown.Proofs.Output.Override

/-!
This module contains what becomes of an image: one tag, with the text of all that stands in the
image as its alternative text. Nothing else in the image leaves a trace.
-/

namespace DirectedMarkdown

open Html (Attribute)
open Markdown (Event WellNested altText)

namespace DirectiveSet

variable (directives : DirectiveSet)

theorem get?_insertTitle_of_ne {entries : PropertyList} {name : String} (h : name ≠ "title")
    (title : String) : (insertTitle entries title).get? name = entries.get? name := by
  unfold insertTitle
  split
  . rfl
  . rw [PropertyList.get?_insert, if_neg h]

/-- The alternative text of the document is written if no other one is configured. -/
theorem get?_alt_imageEntries (url alt title : String)
    : (directives.imageEntries url alt title).get? "alt"
        = (configured? directives.imageAttributes directives.externalImageAttributes
            (Url.isExternal url) "alt").or (some alt) := by
  have hgenerated : (insertTitle ((PropertyList.empty.insert "src" url).insert "alt" alt)
      title).get? "alt" = some alt := by
    rw [get?_insertTitle_of_ne (by decide), PropertyList.get?_insert, if_pos rfl]
  rw [← hgenerated]
  apply get?_overlay

end DirectiveSet

/--
Where no image is open, an image adds its tag to the footnote definition that is being read, or to
the document, and all else is as it was before.
-/
theorem image_swallows_content (style : Style) {state : Styling} (himage : state.image = none)
    {inner : List Event} (hinner : WellNested inner) (url title : String)
    : let events : List Event := .enter (.image url title) :: inner ++ [.leave .image]
      let entries := style.directives.imageEntries url (altText inner) title
      let tag : Output := .written [style.directives.voidTag "img" (Attribute.ofList entries)]
      events.foldl (Styling.step style) state
          = (match state.footnotes.current with
            | none => { state with output := state.output.push tag }
            | some (label, body) =>
              { state with footnotes.current := some (label, body.push tag) })
        ∧ entries.get? "alt"
          = (configured? style.directives.imageAttributes
              style.directives.externalImageAttributes (Url.isExternal url) "alt").or
            (some (altText inner)) := by
  intro events entries tag
  constructor
  . have hpush : events.foldl (Styling.step style) state = state.push tag := by
      unfold events
      rw [Markdown.foldl_part]
      exact Styling.step_leave_image style hinner himage url title
    rw [hpush]
    unfold Styling.push
    cases state.footnotes.current <;> rfl
  . exact style.directives.get?_alt_imageEntries url (altText inner) title

/-- The image stands in a link in a footnote definition, and holds an image and a reference. -/
theorem image_swallows_nested
    : let inner : List Event :=
        [.text "a ", .enter (.image "y.png" ""), .code "b", .leave .image, .softBreak,
          .enter .emphasis, .text "c", .leave .emphasis, .footnoteReference "a"]
      let events : List Event := .enter (.image "x.png" "t") :: inner ++ [.leave .image]
      let state : Styling :=
        { Styling.start with
          linkDepth := 1
          footnotes :=
            { referenced := [("a", 2)], definitions := [], current := some ("a", #[]) } }
      state.image = none ∧ WellNested inner
        ∧ events.foldl (Styling.step .initial) state
          = { state with
              footnotes.current :=
                some ("a", #[.written [.voidTag "img"
                  [{ name := "src", value := "x.png", kind := .url },
                    { name := "alt", value := "a b c" }, { name := "title", value := "t" }]
                  .selfClosingSlash]]) } := by
  intro inner events state
  have himage : WellNested
      [.enter (.image "y.png" ""), .code "b", .leave .image, .softBreak,
        .enter .emphasis, .text "c", .leave .emphasis, .footnoteReference "a"] := by
    apply @WellNested.part (.image "y.png" "") [.code "b"] _ (.content rfl .nil)
    apply WellNested.content rfl
    exact @WellNested.part .emphasis [.text "c"] _ (.content rfl .nil) (.content rfl .nil)
  have hinner : WellNested inner := .content rfl himage
  refine ⟨rfl, hinner, ?_⟩
  have htag : Style.initial.directives.voidTag "img"
      (Attribute.ofList (Style.initial.directives.imageEntries "x.png" (altText inner) "t"))
        = .voidTag "img"
            [{ name := "src", value := "x.png", kind := .url },
              { name := "alt", value := "a b c" }, { name := "title", value := "t" }]
            .selfClosingSlash := by
    decide +kernel
  rw [← htag]
  exact (@image_swallows_content .initial state rfl inner hinner "x.png" "t").1

end DirectedMarkdown
