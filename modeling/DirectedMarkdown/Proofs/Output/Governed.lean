import DirectedMarkdown.Proofs.Directive.Initial
import DirectedMarkdown.Proofs.Footnote.Assembly
import DirectedMarkdown.Proofs.Output.IssuedTag
import DirectedMarkdown.Proofs.Output.Record

/-!
This module contains what the directives have a say in: no event of that kind is kept in an output,
and the tags that are written in their place are closed in the style that is asked for.
-/

namespace DirectedMarkdown

open Html (Markup)
open Markdown (Element Event Tag WellNested everywhere)

/-- Whether directives have a say in how the part is written. -/
def Markdown.Element.isGoverned : Element → Bool
  | .codeBlock | .link | .image | .table | .tableHead | .tableRow | .tableCell
  | .footnoteDefinition => true
  | _ => false

/-- Whether directives have a say in how the event is written, as line ends break lines or not. -/
def Markdown.Event.isGoverned (breaks : Bool) : Event → Bool
  | .enter tag => tag.element.isGoverned
  | .leave element => element.isGoverned
  | .softBreak => breaks
  | .hardBreak | .rule | .taskMarker _ | .footnoteReference _ => true
  | _ => false

/-- A step that keeps nothing that the directives govern, and writes tags in their style. -/
inductive Output.Governed (directives : DirectiveSet) : Output → Prop where
  | kept {event : Event}
    : event.isGoverned directives.breaksEnabled = false → Governed directives (.kept event)
  | written {pieces : List Markup}
    : directives.Issues pieces → Governed directives (.written pieces)

namespace Styling

open DirectiveSet (issues_nil)

variable {style : Style} {state : Styling} {outer : List Tag} {event : Event}

theorem governed_written {pieces : List Markup} (h : style.directives.Issues pieces)
    : ∀ step ∈ [Output.written pieces], step.Governed style.directives :=
  List.forall_mem_singleton.mpr (.written h)

theorem governed_kept (h : event.isGoverned style.directives.breaksEnabled = false)
    : ∀ step ∈ [Output.kept event], step.Governed style.directives :=
  List.forall_mem_singleton.mpr (.kept h)

theorem cellName_mem_pairedNames (table : TableState) : table.cellName ∈ Html.pairedNames := by
  unfold TableState.cellName
  split <;> decide

theorem governed_emission_of_image_some {image : PendingImage} (himage : state.image = some image)
    : ∀ step ∈ emission style state event, step.Governed style.directives := by
  have hfresh : state.fresh.image = some image := himage
  have hempty : ∀ step ∈ state.fresh.output.toList, step.Governed style.directives := by
    simp [fresh]
  unfold emission step
  rw [hfresh]
  dsimp only
  cases event with
  | enter tag => cases tag <;> exact hempty
  | leave element =>
    cases element with
    | image =>
      dsimp only [collect]
      split
      . exact hempty
      . exact governed_written (DirectiveSet.issues_imageTag _ _ _)
    | _ => exact hempty
  | _ => exact hempty

theorem governed_enter (tag : Tag)
    : ∀ step ∈ (state.fresh.enter style tag).output.toList, step.Governed style.directives := by
  cases tag with
  | codeBlock kind => exact governed_written (DirectiveSet.issues_codeBlockStart kind)
  | link kind url title => exact governed_written (DirectiveSet.issues_linkStart kind url title)
  | image url title => simp [enter, fresh]
  | footnoteDefinition label => simp [enter, fresh]
  | table alignments => exact governed_written DirectiveSet.issues_tableStart
  | tableHead =>
    have hrow : style.directives.Issues [.startTag "tr" [], .lineFeed] :=
      issues_nil.lineFeed.startTag (by decide) (by simp)
    exact governed_written (hrow.lineFeed.startTag (by decide) (by simp))
  | tableRow => exact governed_written (issues_nil.lineFeed.startTag (by decide) (by simp))
  | tableCell =>
    exact governed_written (issues_nil.startTag (cellName_mem_pairedNames state.table)
      (DirectiveSet.ownNames_cellAttributes state.table.alignment))
  | _ => exact governed_kept rfl

theorem governed_leave {element : Element} (h : element ≠ .image)
    : ∀ step ∈ (state.fresh.leave element).output.toList, step.Governed style.directives := by
  cases element with
  | image => exact absurd rfl h
  | codeBlock => exact governed_written DirectiveSet.issues_codeBlockEnd
  | link => exact governed_written (issues_nil.endTag (by decide))
  | table =>
    have htable : style.directives.Issues [.endTag "table", .lineFeed] :=
      issues_nil.lineFeed.endTag (by decide)
    exact governed_written (htable.lineFeed.endTag (by decide))
  | tableHead =>
    have hbody : style.directives.Issues [.startTag "tbody" [], .lineFeed] :=
      issues_nil.lineFeed.startTag (by decide) (by simp)
    have hhead : style.directives.Issues
        [.endTag "thead", .lineFeed, .startTag "tbody" [], .lineFeed] :=
      hbody.lineFeed.endTag (by decide)
    exact governed_written (hhead.lineFeed.endTag (by decide))
  | tableRow => exact governed_written (issues_nil.lineFeed.endTag (by decide))
  | tableCell =>
    exact governed_written (issues_nil.lineFeed.endTag (cellName_mem_pairedNames state.table))
  | footnoteDefinition => simp [leave, fresh, Footnotes.close]
  | _ => exact governed_kept rfl

theorem governed_emission_of_image_none (himage : state.image = none) (h : event ≠ .leave .image)
    : ∀ step ∈ emission style state event, step.Governed style.directives := by
  rw [emission_of_image_none style himage]
  cases event with
  | enter tag => exact governed_enter tag
  | leave element => exact governed_leave (by simpa using h)
  | text content =>
    simp only [visit, text]
    split
    . exact governed_kept rfl
    . split
      . next pieces hpieces => exact governed_written (DirectiveSet.issues_decorate hpieces)
      . exact governed_kept rfl
  | softBreak =>
    simp only [visit]
    split
    . exact governed_written DirectiveSet.issues_lineBreak
    . next hbreaks => exact governed_kept (by simpa [Event.isGoverned] using hbreaks)
  | hardBreak => exact governed_written DirectiveSet.issues_lineBreak
  | rule => exact governed_written DirectiveSet.issues_rule
  | taskMarker checked => exact governed_written (DirectiveSet.issues_taskBox checked)
  | footnoteReference label => exact governed_written (DirectiveSet.issues_noteReference _ _ _)
  | _ => exact governed_kept rfl

/-- The end of an image comes with the whole image, so nothing is kept of it. -/
theorem governed_emission (himages : state.openImages = outer.countP Tag.isImage)
    (hcloses : event.closes outer)
    : ∀ step ∈ emission style state event, step.Governed style.directives := by
  cases himage : state.image with
  | some image => exact governed_emission_of_image_some himage
  | none =>
    apply governed_emission_of_image_none himage
    rintro rfl
    obtain ⟨tag, rest, rfl, htag⟩ := Event.opened_of_closes hcloses
    have hopen : tag.isImage := by simp [Tag.isImage_eq_element, htag]
    rw [openImages_eq_zero_iff.mpr himage, List.countP_cons_of_pos hopen] at himages
    omega

theorem Holds.foldl_step {events : List Event} (h : Holds (Output.Governed style.directives) state)
    (himages : state.openImages = outer.countP Tag.isImage)
    (hcloses : everywhere Event.closes outer events)
    : Holds (Output.Governed style.directives) (events.foldl (Styling.step style) state) := by
  induction events generalizing outer state with
  | nil => exact h
  | cons event rest ih =>
    simp only [everywhere, Bool.and_eq_true] at hcloses
    have hnext := h.step (governed_emission himages hcloses.1)
    exact ih hnext (openImages_step himages hcloses.1) hcloses.2

end Styling

namespace Note

open DirectiveSet (issues_nil)

variable {directives : DirectiveSet}

theorem Framing.issues {pieces : List Markup} (h : Framing directives pieces)
    : directives.Issues pieces := by
  cases h with
  | listStart =>
    have hol : directives.Issues [.startTag "ol" [], .lineFeed] :=
      issues_nil.lineFeed.startTag (by decide) (by simp)
    have hrule : directives.Issues
        [.voidTag "hr" [] directives.elementClosingStyle, .lineFeed, .startTag "ol" [],
          .lineFeed] :=
      hol.lineFeed.voidTag (by decide) (by simp)
    exact hrule.lineFeed.startTag (by decide) (Html.Attribute.ownNames_ofClass _)
  | itemStart label =>
    exact issues_nil.lineFeed.startTag (by decide) (by simp [Html.Attribute.ownNames])
  | backlinks label count => exact DirectiveSet.issues_backlinks label count
  | itemEnd => exact issues_nil.lineFeed.endTag (by decide)
  | listEnd =>
    have hdiv : directives.Issues [.endTag "div", .lineFeed] :=
      issues_nil.lineFeed.endTag (by decide)
    exact hdiv.lineFeed.endTag (by decide)

theorem governed_list {notes : List Note}
    (h : ∀ note ∈ notes, ∀ step ∈ note.body, step.Governed directives)
    : ∀ step ∈ list directives notes, step.Governed directives :=
  forall_mem_list (fun _ hframing => .written hframing.issues) h

end Note

theorem Style.governed_apply (style : Style) {events : List Event} (h : WellNested events)
    : ∀ step ∈ style.apply events, step.Governed style.directives := by
  have hlast : Styling.Holds (Output.Governed style.directives)
      (events.foldl (Styling.step style) .start) :=
    Styling.holds_start.foldl_step rfl (h.everywhere_closes [])
  unfold Style.apply Styling.finish
  rw [List.forall_mem_append]
  exact ⟨hlast.output, Note.governed_list hlast.notes⟩

/--
Nothing that the directives govern is kept in an output. Whatever is written in its place, but for
the texts that are configured as HTML, has all of its tags closed in the style of the directives.
-/
theorem apply_governed (style : Style) {events : List Event} (h : WellNested events)
    : (∀ event, .kept event ∈ style.apply events →
        event.isGoverned style.directives.breaksEnabled = false)
      ∧ ∀ pieces, .written pieces ∈ style.apply events →
        ∀ rest : List Markup, rest.Sublist pieces →
          (∀ piece ∈ rest, ¬piece.IsRaw style.directives.IsRaw) →
          ∀ tag ∈ Html.tags (Markup.renderAll rest),
            Html.ClosesIn style.directives.elementClosingStyle tag := by
  have hgoverned := style.governed_apply h
  constructor
  . intro event hevent
    cases hgoverned _ hevent with
    | kept hkept => exact hkept
  . intro pieces hpieces rest hrest hraw tag htag
    cases hgoverned _ hpieces with
    | written hissued =>
      exact Markup.closesIn_of_mem_tags (fun piece hpiece => hissued piece (hrest.subset hpiece))
        hraw htag

/-- An image, breaks and a note, where the text of the link back has a tag in the other style. -/
theorem apply_governed_html5
    : let directives : DirectiveSet :=
        { DirectiveSet.initial with
          elementClosingStyle := .bareAngleBracket
          footnoteBacklinkText := "<br />" }
      let style : Style := { Style.initial with directives }
      let events : List Event :=
        [.enter .paragraph, .enter (.image "a/" ""), .text "x", .hardBreak, .leave .image,
          .hardBreak, .footnoteReference "n", .leave .paragraph,
          .enter (.footnoteDefinition "n"), .rule, .leave .footnoteDefinition]
      WellNested events
        ∧ .written [directives.imageTag "a/" "x " ""] ∈ style.apply events
        ∧ Html.ClosesIn .bareAngleBracket "<img src=\"a/\" alt=\"x \">"
        ∧ ∀ event, .kept event ∈ style.apply events → event.isGoverned false = false := by
  intro directives style events
  have hnested : WellNested events := by
    apply @WellNested.part .paragraph
      [.enter (.image "a/" ""), .text "x", .hardBreak, .leave .image, .hardBreak,
        .footnoteReference "n"]
    . apply @WellNested.part (.image "a/" "") [.text "x", .hardBreak]
      . exact .content rfl (.content rfl .nil)
      . exact .content rfl (.content rfl .nil)
    . exact @WellNested.part (.footnoteDefinition "n") [.rule] [] (.content rfl .nil) .nil
  have himage : .written [directives.imageTag "a/" "x " ""] ∈ style.apply events := by
    decide +kernel
  obtain ⟨hkept, hwritten⟩ := apply_governed style hnested
  refine ⟨hnested, himage, ?_, hkept⟩
  apply hwritten _ himage _ (List.Sublist.refl _)
  . exact List.forall_mem_singleton.mpr id
  . decide +kernel

end DirectedMarkdown
