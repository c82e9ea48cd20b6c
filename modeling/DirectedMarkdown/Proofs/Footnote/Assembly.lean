import DirectedMarkdown.Proofs.Directive.Initial
import DirectedMarkdown.Proofs.Footnote.Numbering
import DirectedMarkdown.Proofs.Html.AttributeText
import DirectedMarkdown.Proofs.Output.Trace
import Mathlib.Data.List.TakeWhile

/-!
This module contains the assembly of footnotes: which notes a document has, what an item of the list
at its end is put together from, and with which numbers a reference is written.
-/

namespace DirectedMarkdown

open Html (Attribute Markup)
open Markdown (Event NotesApart RefersAt ReferencesDefined Tag WellNested definedLabels
  everywhere_append map_fst_noteContents openParts references references_middle)

theorem Output.endsParagraph_eq_false_iff {step : Output}
    : step.endsParagraph = false ↔ step ≠ .kept (.leave .paragraph) := by
  unfold endsParagraph
  split <;> simp_all

namespace Note

/-- A body is parted before its last end of a paragraph, or behind all of it if it has none. -/
inductive Parted : List Output → List Output → List Output → Prop where
  | paragraph {front after : List Output}
    : (∀ step ∈ after, step ≠ .kept (.leave .paragraph)) →
      Parted (front ++ .kept (.leave .paragraph) :: after) front
        (.kept (.leave .paragraph) :: after)
  | whole {body : List Output}
    : (∀ step ∈ body, step ≠ .kept (.leave .paragraph)) → Parted body body []

theorem Parted.eq_append {body front back : List Output} (h : Parted body front back)
    : body = front ++ back := by
  cases h with
  | paragraph => rfl
  | whole => exact (List.append_nil body).symm

theorem insertBeforeEnd_eq (step : Output) (body : List Output)
    : ∃ front back, Parted body front back ∧ insertBeforeEnd step body = front ++ step :: back := by
  have hsplit : body
      = (body.reverse.dropWhile (!·.endsParagraph)).reverse
        ++ (body.reverse.takeWhile (!·.endsParagraph)).reverse := by
    rw [← List.reverse_append, List.takeWhile_append_dropWhile, List.reverse_reverse]
  unfold insertBeforeEnd
  split
  . next h =>
    rw [List.dropWhile_eq_nil_iff] at h
    refine ⟨body, [], .whole ?_, rfl⟩
    intro last hlast
    rw [← Output.endsParagraph_eq_false_iff]
    simpa using h last (List.mem_reverse.mpr hlast)
  . next last before h =>
    have hends := List.head?_dropWhile_not (!·.endsParagraph) body.reverse
    rw [h] at hends hsplit
    obtain rfl : last = .kept (.leave .paragraph) := by
      by_contra hne
      rw [← ne_eq, ← Output.endsParagraph_eq_false_iff] at hne
      simp [hne] at hends
    rw [List.reverse_cons, List.append_assoc, List.singleton_append] at hsplit
    have hparted := @Parted.paragraph before.reverse
      (body.reverse.takeWhile (!·.endsParagraph)).reverse fun later hlater => by
        rw [← Output.endsParagraph_eq_false_iff]
        simpa using List.mem_takeWhile_imp (List.mem_reverse.mp hlater)
    rw [← hsplit] at hparted
    exact ⟨_, _, hparted, rfl⟩

theorem item_eq (directives : DirectiveSet) (note : Note)
    : ∃ front back, Parted note.body front back
        ∧ note.item directives
          = .written [.startTag "li" [{ name := "id", value := directives.noteId note.label }],
              .lineFeed]
            :: front ++ .written (directives.backlinks note.label note.count) :: back
            ++ [.written [.endTag "li", .lineFeed]] := by
  obtain ⟨front, back, hparted, hinsert⟩ :=
    insertBeforeEnd_eq (.written (directives.backlinks note.label note.count)) note.body
  refine ⟨front, back, hparted, ?_⟩
  unfold item
  rw [hinsert]
  simp

/-- What the list of notes has besides the bodies. -/
inductive Framing (directives : DirectiveSet) : List Markup → Prop where
  | listStart
    : Framing directives
        [.startTag "div" (Attribute.ofClass directives.footnoteClass), .lineFeed,
          .voidTag "hr" [] directives.elementClosingStyle, .lineFeed, .startTag "ol" [], .lineFeed]
  | itemStart (label : String)
    : Framing directives
        [.startTag "li" [{ name := "id", value := directives.noteId label }], .lineFeed]
  | backlinks (label : String) (count : Nat)
    : Framing directives (directives.backlinks label count)
  | itemEnd : Framing directives [.endTag "li", .lineFeed]
  | listEnd : Framing directives [.endTag "ol", .lineFeed, .endTag "div", .lineFeed]

theorem forall_mem_list {directives : DirectiveSet} {notes : List Note} {p : Output → Prop}
    (hframing : ∀ pieces, Framing directives pieces → p (.written pieces))
    (hbody : ∀ note ∈ notes, ∀ step ∈ note.body, p step)
    : ∀ step ∈ list directives notes, p step := by
  have hitem (note : Note) (hnote : note ∈ notes) : ∀ step ∈ note.item directives, p step := by
    obtain ⟨front, back, hparted, hitem⟩ := note.item_eq directives
    have hsteps := hbody note hnote
    rw [hparted.eq_append, List.forall_mem_append] at hsteps
    rw [hitem, List.forall_mem_append, List.forall_mem_append, List.forall_mem_cons,
      List.forall_mem_cons, List.forall_mem_singleton]
    exact ⟨⟨⟨hframing _ (.itemStart _), hsteps.1⟩, hframing _ (.backlinks _ _), hsteps.2⟩,
      hframing _ .itemEnd⟩
  unfold list
  split
  . simp
  . rw [List.forall_mem_append, List.forall_mem_cons, List.forall_mem_singleton,
      List.forall_mem_flatMap]
    exact ⟨⟨hframing _ .listStart, hitem⟩, hframing _ .listEnd⟩

end Note

namespace DirectiveSet

theorem hrefs_backlink (directives : DirectiveSet) (label : String) (occurrence : Nat)
    : (directives.backlink label occurrence).filterMap (Html.Markup.attributeText? "a" "href")
        = [Attribute.written
            { name := "href", value := "#" ++ directives.referenceId occurrence label }] := by
  rfl

theorem hrefs_backlinks (directives : DirectiveSet) (label : String) (count : Nat)
    : Output.attributeTexts "a" "href" [.written (directives.backlinks label count)]
        = (List.range count).map fun i =>
            Attribute.written
              { name := "href", value := "#" ++ directives.referenceId (i + 1) label } := by
  unfold backlinks
  simp only [Output.attributeTexts, List.flatMap_cons, List.flatMap_nil, List.append_nil]
  rw [List.filterMap_flatMap]
  simp only [hrefs_backlink]
  rw [List.map_eq_flatMap]

theorem hrefs_noteReference (directives : DirectiveSet) (label : String) (number occurrence : Nat)
    : Output.attributeTexts "a" "href"
          [.written (directives.noteReference label number occurrence)]
        = [Attribute.written { name := "href", value := "#" ++ directives.noteId label }] := by
  rfl

end DirectiveSet

theorem Note.ids_item (directives : DirectiveSet) (note : Note)
    : Output.attributeTexts "li" "id" ((note.item directives).take 1)
        = [Attribute.written { name := "id", value := directives.noteId note.label }] := by
  obtain ⟨front, back, _, hitem⟩ := note.item_eq directives
  rw [hitem]
  rfl

namespace Footnotes

theorem notes_of_tally {footnotes : Footnotes} {references : List String}
    {body : String → List Output} (hreferenced : footnotes.referenced = tally references)
    (hdefinitions : ∀ label ∈ references, footnotes.definitions.lookup label = some (body label))
    : footnotes.notes
        = references.eraseDups.map fun label =>
            { label, count := references.count label, body := body label } := by
  unfold notes tally at *
  rw [hreferenced, List.filterMap_map, List.filterMap_eq_map_iff_forall_eq_some]
  intro label hlabel
  have hbody := hdefinitions label (List.mem_eraseDups.mp hlabel)
  simp only [Function.comp_apply, hbody, Option.map_some]

theorem close_referenced (footnotes : Footnotes)
    : footnotes.close.referenced = footnotes.referenced := by
  unfold close
  split <;> rfl

end Footnotes

theorem Trace.map_fst_noteBodies (style : Style) (state : Styling) (events : List Event)
    : (noteBodies (Styling.trace style state events)).map Prod.fst = definedLabels events := by
  unfold noteBodies
  rw [List.map_map]
  have := map_fst_noteContents Prod.fst (Styling.trace style state events)
  rw [Styling.map_fst_trace] at this
  exact this

namespace Styling

/-- What a reference adds to the output depends on the references before it only. -/
theorem emission_reference (style : Style) {state : Styling} {earlier : List String}
    (label : String) (himage : state.image = none)
    (htally : state.footnotes.referenced = Footnotes.tally earlier)
    : emission style state (.footnoteReference label)
        = [.written (style.directives.noteReference label
            ((earlier ++ [label]).eraseDups.idxOf label + 1) (earlier.count label + 1))] := by
  have hemission : emission style state (.footnoteReference label)
      = [.written (style.directives.noteReference label
          ((state.footnotes.refer label).number label)
          ((state.footnotes.refer label).occurrences label))] := by
    have hfresh : state.fresh.image = none := himage
    unfold emission step
    rw [hfresh]
    rfl
  rw [hemission, Footnotes.number, Footnotes.occurrences, Footnotes.refer, htally]
  rw [Footnotes.count_tally, Footnotes.numberOf_tally, Footnotes.lookup_tally (by simp)]
  simp

theorem getElem?_trace (style : Style) (state : Styling) (before : List Event) (event : Event)
    (after : List Event)
    : (trace style state (before ++ event :: after))[before.length]?
        = some (event, emission style (before.foldl (step style) state) event) := by
  rw [trace_append, List.getElem?_append_right]
  . simp [length_trace, trace]
  . simp [length_trace]

end Styling

/-- The notes in the list at the end of a document. -/
def Style.notes (style : Style) (events : List Event) : List Note :=
  (events.foldl (Styling.step style) .start).footnotes.close.notes

section

variable (style : Style) {events : List Event}

theorem Style.apply_eq_append_list (hnested : WellNested events) (hapart : NotesApart events)
    : style.apply events
        = Trace.outsideNotes false (Styling.trace style .start events)
          ++ Note.list style.directives (style.notes events) := by
  unfold Style.apply Styling.finish Style.notes
  rw [Styling.fits_start.output_foldl_step style (hnested.everywhere_closes []) hapart]
  rfl

theorem Style.lookup_noteBodies_of_mem {label : String} (hlabel : label ∈ definedLabels events)
    : ∃ body,
        (Trace.noteBodies (Styling.trace style .start events)).lookup label = some body := by
  rw [← Option.isSome_iff_exists, List.lookup_isSome_iff]
  rw [← Trace.map_fst_noteBodies style .start events, List.mem_map] at hlabel
  obtain ⟨entry, hentry, heq⟩ := hlabel
  exact ⟨entry, hentry, by simp [heq]⟩

/-- The definitions that are taken down are the first ones of their labels. -/
theorem Style.lookup_definitions (hnested : WellNested events) (hapart : NotesApart events)
    (label : String)
    : (events.foldl (Styling.step style) .start).footnotes.close.definitions.lookup label
        = (Trace.noteBodies (Styling.trace style .start events)).lookup label := by
  rw [Footnotes.lookup_close]
  rw [Styling.fits_start.lookup_pages_foldl_step style (hnested.everywhere_closes []) hapart label]
  rfl

theorem Style.notes_eq_map (hnested : WellNested events) (hapart : NotesApart events)
    (hdefined : ReferencesDefined events)
    : style.notes events
        = (references events).eraseDups.map fun label =>
            { label
              count := (references events).count label
              body := ((Trace.noteBodies (Styling.trace style .start events)).lookup label).getD
                [] } := by
  have hcloses := hnested.everywhere_closes []
  apply Footnotes.notes_of_tally
  . rw [Footnotes.close_referenced]
    exact Styling.tally_foldl_step [] rfl hcloses rfl
  . intro label hlabel
    obtain ⟨body, hbody⟩ := style.lookup_noteBodies_of_mem (hdefined.mem_definedLabels hlabel)
    rw [style.lookup_definitions hnested hapart, hbody, Option.getD_some]

/-- A reference is written with the place of its label among all labels that are referred to. -/
theorem Style.trace_of_refersAt (hnested : WellNested events) {before : List Event}
    {label : String} (hrefers : RefersAt events before label)
    : (Styling.trace style .start events)[before.length]?
        = some (.footnoteReference label,
            [.written (style.directives.noteReference label
              ((references events).eraseDups.idxOf label + 1)
              ((references before).count label + 1))]) := by
  obtain ⟨⟨after, rfl⟩, houtside⟩ := hrefers
  have hcloses := hnested.everywhere_closes []
  rw [everywhere_append, Bool.and_eq_true] at hcloses
  have himage : (before.foldl (Styling.step style) .start).image = none :=
    Styling.image_eq_none_of_any (Styling.openImages_foldl_step rfl hcloses.1) houtside
  have htally : (before.foldl (Styling.step style) .start).footnotes.referenced
      = Footnotes.tally (references before) :=
    Styling.tally_foldl_step [] rfl hcloses.1 rfl
  rw [Styling.getElem?_trace, Styling.emission_reference style label himage htally]
  -- Later labels come behind the one that is referred to here.
  have hplace : ∀ later : List String,
      ((references before ++ [label]) ++ later).eraseDups.idxOf label
        = (references before ++ [label]).eraseDups.idxOf label := by
    intro later
    rw [List.eraseDups_append, List.idxOf_append_of_mem]
    simp
  rw [references_middle houtside, List.append_cons _ label (Markdown.referencesIn _ after), hplace]

end

end DirectedMarkdown
