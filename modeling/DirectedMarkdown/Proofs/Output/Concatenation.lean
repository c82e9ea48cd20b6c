import DirectedMarkdown.Proofs.Directive.Initial
import DirectedMarkdown.Proofs.Footnote.Numbering
import DirectedMarkdown.Proofs.Output.Place
import DirectedMarkdown.Proofs.Output.TablePlace
import DirectedMarkdown.Proofs.Output.Trace

/-!
This module contains what is left of a part of a document behind it: nothing that tells in the
output. Without footnotes, the output of two documents in a row is that of the one, and then that of
the other.
-/

namespace DirectedMarkdown

open Markdown (Event NoFootnotes TablesWhole Tag WellNested everywhere openOutside)

namespace Styling

variable {style : Style} {state other : Styling} {event : Event} {events : List Event}
  {outer : List Tag}

theorem turnsPage_of_not_isFootnote (h : event.isFootnote = false)
    : state.turnsPage event = false := by
  unfold turnsPage
  split
  . simp [Event.isFootnote] at h
  . simp [Event.isFootnote] at h
  . rfl

/-- The states have the same place in the document, and in its table if one is open. -/
structure Alike (outer : List Tag) (state other : Styling) : Prop where
  blank : other.blank = state.blank
  fresh : 0 < openOutside .table outer → other.fresh = state.fresh

section Alike

theorem Alike.emission_eq (h : Alike outer state other) (hplaced : Placed outer state)
    (htable : event.standsInTable outer)
    : emission style other event = emission style state event := by
  apply emission_of_blank h.blank
  intro hcell himage
  apply h.fresh
  have hany := hplaced.any_isImage
  rw [himage] at hany
  apply Markdown.openOutside_pos _ hany
  unfold Event.isCell at hcell
  split at hcell
  . exact htable
  . exact htable
  . simp at hcell

theorem Alike.step (h : Alike outer state other) (hplaced : Placed outer state)
    (hcloses : event.closes outer) (hnone : event.isFootnote = false)
    : Alike (event.opened outer) (step style state event) (step style other event) where
  blank := blank_step (turnsPage_of_not_isFootnote hnone) h.blank
  fresh := by
    intro hopen
    by_cases hbefore : 0 < openOutside .table outer
    . rw [fresh_step (turnsPage_of_not_isFootnote hnone), h.fresh hbefore]
      rw [← fresh_step (turnsPage_of_not_isFootnote hnone)]
    -- A table starts, and the cells are counted from its start.
    have hany := hplaced.any_isImage
    cases himage : state.image with
    | some image =>
      rw [himage] at hany
      rw [Markdown.openOutside_opened_of_image (by simp) hany hcloses] at hopen
      exact absurd hopen hbefore
    | none =>
      rw [himage] at hany
      rw [Markdown.openOutside_opened _ hany hcloses] at hopen
      apply fresh_of_blank (blank_step (turnsPage_of_not_isFootnote hnone) h.blank)
      have hother : other.image = none := (image_of_blank h.blank).trans himage
      cases event with
      | enter tag =>
        cases tag with
        | table alignments =>
          rw [table_step style himage, table_step style hother]
          rfl
        | _ => simp_all [Tag.element]
      | _ =>
        dsimp only at hopen
        omega

/-- What a part of a document adds to the output depends on its place only. -/
theorem Alike.trace_eq (h : Alike outer state other) (hplaced : Placed outer state)
    (hcloses : everywhere Event.closes outer events) (hnone : NoFootnotes events)
    (htables : everywhere Event.standsInTable outer events)
    : trace style other events = trace style state events := by
  induction events generalizing outer state other with
  | nil => rfl
  | cons event rest ih =>
    simp only [everywhere, Bool.and_eq_true] at hcloses htables
    obtain ⟨hevent, hrest⟩ := List.forall_mem_cons.mp hnone
    rw [trace, trace, h.emission_eq hplaced htables.1]
    rw [ih (h.step hplaced hcloses.1 hevent) (hplaced.step hcloses.1) hcloses.2 hrest htables.2]

end Alike

section NoFootnotes

theorem referenced_step_of_not_isFootnote (style : Style) (state : Styling)
    (h : event.isFootnote = false)
    : (step style state event).footnotes.referenced = state.footnotes.referenced := by
  unfold step
  split
  . exact referenced_collect _
  . rw [referenced_visit]
    split
    . simp [Event.isFootnote] at h
    . rfl

theorem step_of_not_isFootnote (style : Style) (h : event.isFootnote = false)
    (hcurrent : state.footnotes.current = none)
    : (step style state event).footnotes = state.footnotes
        ∧ (step style state event).output.toList
          = state.output.toList ++ emission style state event := by
  obtain ⟨houtput, hnext, hdefinitions⟩ :=
    step_of_current_none style state (turnsPage_of_not_isFootnote h) hcurrent
  have hreferenced := referenced_step_of_not_isFootnote style state h
  refine ⟨?_, by rw [houtput]; simp⟩
  rw [← hcurrent] at hnext
  generalize (step style state event).footnotes = footnotes at *
  obtain ⟨referenced, definitions, current⟩ := footnotes
  dsimp only at hnext hdefinitions hreferenced
  rw [hnext, hdefinitions, hreferenced]

theorem foldl_step_of_noFootnotes (style : Style) (h : NoFootnotes events)
    (hcurrent : state.footnotes.current = none)
    : (events.foldl (step style) state).footnotes = state.footnotes
        ∧ (events.foldl (step style) state).output.toList
          = state.output.toList ++ (trace style state events).flatMap Prod.snd := by
  induction events generalizing state with
  | nil => exact ⟨rfl, by simp [trace]⟩
  | cons event rest ih =>
    obtain ⟨hevent, hrest⟩ := List.forall_mem_cons.mp h
    obtain ⟨hfootnotes, houtput⟩ := step_of_not_isFootnote style hevent hcurrent
    rw [← hfootnotes] at hcurrent
    obtain ⟨hlast, hall⟩ := ih hrest hcurrent
    rw [List.foldl_cons, hlast, hall, hfootnotes, houtput, trace]
    exact ⟨rfl, by simp⟩

end NoFootnotes

end Styling

theorem Style.apply_of_noFootnotes (style : Style) {events : List Event} (h : NoFootnotes events)
    : style.apply events = (Styling.trace style .start events).flatMap Prod.snd := by
  obtain ⟨hfootnotes, houtput⟩ :=
    Styling.foldl_step_of_noFootnotes style h (rfl : Styling.start.footnotes.current = none)
  unfold Style.apply Styling.finish
  rw [hfootnotes, houtput]
  exact List.append_nil _

/--
Without footnotes, the output of a document behind another one is that of the document alone, and
no image, link or code block is open behind either.
-/
theorem apply_append (style : Style) {xs ys : List Event}
    (hxs : WellNested xs) (hys : WellNested ys) (hxsNone : NoFootnotes xs)
    (hysNone : NoFootnotes ys) (htables : TablesWhole ys)
    : style.apply (xs ++ ys) = style.apply xs ++ style.apply ys
        ∧ let last := xs.foldl (Styling.step style) Styling.start
          last.image = none ∧ last.linkDepth = 0 ∧ last.inCodeBlock = false := by
  have hplaced := Styling.placed_start.foldl_step style (hxs.everywhere_closes [])
  rw [hxs.foldl_opened] at hplaced
  have himage := Styling.openImages_eq_zero_iff.mp hplaced.images
  have hcode : (xs.foldl (Styling.step style) .start).inCodeBlock = false := by
    simpa [openOutside] using hplaced.code
  refine ⟨?_, himage, hplaced.links, hcode⟩
  have hfootnotes := (Styling.foldl_step_of_noFootnotes style hxsNone
    (rfl : Styling.start.footnotes.current = none)).1
  have halike : Styling.Alike [] .start (xs.foldl (Styling.step style) .start) := by
    refine ⟨?_, by simp [openOutside]⟩
    unfold Styling.blank Styling.fresh
    rw [hfootnotes, himage, hplaced.links, hcode]
    rfl
  have hboth : NoFootnotes (xs ++ ys) := by
    intro event hevent
    exact (List.mem_append.mp hevent).elim (hxsNone event) (hysNone event)
  rw [style.apply_of_noFootnotes hboth, style.apply_of_noFootnotes hxsNone]
  rw [style.apply_of_noFootnotes hysNone, Styling.trace_append, List.flatMap_append]
  rw [halike.trace_eq Styling.placed_start (hys.everywhere_closes []) hysNone htables]

/-- Behind a table with two columns, the cells of another one are aligned from its first column. -/
theorem apply_append_tables
    : let cells : List Event :=
        [.enter .tableHead, .enter .tableCell, .text "x", .leave .tableCell, .leave .tableHead]
      let left : List Event := .enter (.table [.left, .left]) :: cells ++ [.leave .table]
      let right : List Event := .enter (.table [.right]) :: cells ++ [.leave .table]
      Style.initial.apply (left ++ right) = Style.initial.apply left ++ Style.initial.apply right
        ∧ .written [.startTag "th" [{ name := "style", value := "text-align: right;" }]]
          ∈ Style.initial.apply right := by
  intro cells left right
  have hcells : WellNested cells := by
    apply @WellNested.part .tableHead [.enter .tableCell, .text "x", .leave .tableCell] [] _ .nil
    exact @WellNested.part .tableCell [.text "x"] [] (.content rfl .nil) .nil
  have hleft : WellNested left := @WellNested.part (.table [.left, .left]) cells [] hcells .nil
  have hright : WellNested right := @WellNested.part (.table [.right]) cells [] hcells .nil
  refine ⟨?_, by decide +kernel⟩
  exact (apply_append .initial hleft hright (by decide) (by decide) (by decide)).1

end DirectedMarkdown
