import DirectedMarkdown.Proofs.Directive.Initial
import DirectedMarkdown.Proofs.Footnote.Assembly
import DirectedMarkdown.Proofs.Footnote.FirstPage
import DirectedMarkdown.Proofs.Output.Sheet
import DirectedMarkdown.Proofs.Output.TablePlace

/-!
This module contains the balance of an output: the parts of the document that are kept and the
elements that are written close in the reverse order in which they open. It holds just if no
footnote definition starts in an open part of another one.
-/

namespace DirectedMarkdown

open Markdown (Cells Element Event Formed KeepsNotes NotesWhole Rows Running Tag notesWholeFrom)

/-- What is open in the output where a part is open, and a table cell is this element. -/
def Markdown.Tag.brackets (cell : String) : Tag → List Bracket
  | .codeBlock _ => [.element "code", .element "pre"]
  | .link _ _ _ => [.element "a"]
  | .table _ => [.element "table"]
  | .tableHead => [.element "tr", .element "thead"]
  | .tableRow => [.element "tr"]
  | .tableCell => [.element cell]
  | .footnoteDefinition _ | .image _ _ => []
  | tag => [.part tag.element]

namespace Frame

def ofTag (cell : String) (tag : Tag) (h : tag.isImage = false) : Frame where
  tag := tag
  brackets := tag.brackets cell
  brackets_eq_nil_iff := by
    cases tag <;> simp_all [Tag.brackets, Tag.isNote, Tag.isImage]

/-- A table whose head has been read. -/
def tableBody (alignments : List Markdown.ColumnAlignment) : Frame where
  tag := .table alignments
  brackets := [.element "tbody", .element "table"]
  brackets_eq_nil_iff := by simp [Tag.isNote]

end Frame

theorem Side.run_opening (cell : String) (tag : Tag)
    : run [] (tag.opening cell) = some (tag.brackets cell) := by
  cases tag <;> rfl

theorem Side.run_closing (cell other : String) {tag : Tag} (himage : tag.isImage = false)
    (htable : tag.isTablePart = false)
    : run (tag.brackets cell) (tag.element.closing other) = some [] := by
  cases tag <;> simp_all [Tag.brackets, Tag.element, Element.closing, run, step, Tag.isTablePart,
    Tag.isImage]

namespace Styling

variable (style : Style) {state : Styling}

/-- Running text, references and the like close all that they open. -/
theorem balanced_visitSides {event : Event} (h : event.isContent)
    : Side.Balanced (visitSides style state event) := by
  cases event with
  | text content =>
    obtain ⟨names, hnames, _⟩ := textSides_eq style state content
    simp only [visitSides, hnames]
    exact Side.balanced_flatMap fun name _ => Side.balanced_nil.wrap (.element name)
  | footnoteReference label => rfl
  | _ => simp_all [Event.isContent, visitSides, Side.balanced_nil]

end Styling

namespace Drawn

variable (style : Style) {state : Styling} {frames : List Frame} {parts : Option (List Tag)}
  {whole : Bool}

theorem content (h : Drawn frames parts whole state) {event : Event} (hcontent : event.isContent)
    : Drawn frames parts whole (Styling.step style state event) := by
  have hread : Drawn ([] ++ frames) (event.read parts) whole (Styling.step style state event) := by
    apply h.step style [] []
    . simp
    . simp
    . cases event <;> simp_all [Event.isContent, Styling.turnsPage]
    . rintro url title rfl
      simp [Event.isContent] at hcontent
    . exact Styling.balanced_visitSides style hcontent
    . intro outer
      exact Markdown.opened_of_isContent hcontent _
  rwa [Markdown.read_of_isContent hcontent] at hread

theorem enter (h : Drawn frames parts whole state) (tag : Tag) (himage : tag.isImage = false)
    (hnote : tag.isNote = false)
    : Drawn (.ofTag state.table.cellName tag himage :: frames) ((Event.enter tag).read parts) whole
        (Styling.step style state (.enter tag)) := by
  apply h.step style [] [.ofTag state.table.cellName tag himage]
  . simp
  . simpa [Frame.ofTag] using hnote
  . cases tag <;> simp_all [Styling.turnsPage, Tag.isNote]
  . rintro url title heq
    cases heq
    simp [Tag.isImage] at himage
  . simpa [Frame.ofTag, Styling.visitSides] using Side.run_opening state.table.cellName tag
  . intro outer
    rfl

theorem leave {tag : Tag} {cell : String} {himage : tag.isImage = false}
    (h : Drawn (.ofTag cell tag himage :: frames) parts whole state) (hnote : tag.isNote = false)
    (hrun : Side.run (tag.brackets cell) (tag.element.closing state.table.cellName) = some [])
    : Drawn frames ((Event.leave tag.element).read parts) whole
        (Styling.step style state (.leave tag.element)) := by
  apply h.step style [.ofTag cell tag himage] []
  . simpa [Frame.ofTag] using hnote
  . simp
  . cases tag <;> simp_all [Styling.turnsPage, Tag.isNote, Tag.element]
  . simp
  . simpa [Frame.ofTag, Styling.visitSides] using hrun
  . intro outer
    rfl

theorem read_image (h : Drawn frames parts whole state) {inner : List Event}
    (hinner : Running inner) (url title : String)
    : Drawn frames parts whole
        (Styling.step style
          (inner.foldl (Styling.step style) (Styling.step style state (.enter (.image url title))))
          (.leave .image)) := by
  rw [Styling.step_leave_image style hinner.wellNested h.image]
  have himage : (state.push (.written
      [style.directives.imageTag url (Markdown.altText inner) title])).image = none := by
    rw [Styling.push_image]
    exact h.image
  have := h.advance [] [] (by simp) (by simp) (state.adds_push _) himage rfl id (fun outer => rfl)
  simpa using this

theorem running {events : List Event} (hevents : Running events)
    (h : Drawn frames parts whole state)
    : Drawn frames parts whole (events.foldl (Styling.step style) state) := by
  induction hevents generalizing frames parts state with
  | nil => exact h
  | content hcontent _ ih => exact ih (h.content style hcontent)
  | @part tag inner rest hnote hpart hinner _ ihInner ihRest =>
    rw [Markdown.foldl_part]
    -- The end of an image comes with all of it, since nothing is written before.
    by_cases himage : tag.isImage = false
    . have hdrawn := ihInner (h.enter style tag himage hnote)
      have hleave := hdrawn.leave style hnote (Side.run_closing _ _ himage hpart)
      rw [Markdown.read_leave_enter tag hnote] at hleave
      exact ihRest hleave
    . cases tag with
      | image url title => exact ihRest (h.read_image style hinner url title)
      | _ => simp [Tag.isImage] at himage

theorem cells {events : List Event} (hevents : Cells events) (h : Drawn frames parts whole state)
    : Drawn frames parts whole (events.foldl (Styling.step style) state) := by
  induction hevents generalizing state with
  | nil => exact h
  | @cell inner rest hinner _ ih =>
    have henter := h.enter style .tableCell rfl rfl
    -- The cell ends as the element that it started as.
    have hleave := (henter.running style hinner).leave style rfl (by
      rw [Styling.table_foldl_step style _ hinner.forall_isRunning]
      rw [Styling.table_step style h.image]
      simp [TableState.after, Tag.brackets, Tag.element, Element.closing, Side.run, Side.step])
    rw [Markdown.read_leave_enter .tableCell rfl] at hleave
    rw [Markdown.foldl_part]
    exact ih hleave

theorem rows {events : List Event} (hevents : Rows events) (h : Drawn frames parts whole state)
    : Drawn frames parts whole (events.foldl (Styling.step style) state) := by
  induction hevents generalizing state with
  | nil => exact h
  | @row inner rest hcells _ ih =>
    have henter := h.enter style .tableRow rfl rfl
    have hleave := (henter.cells style hcells).leave style rfl rfl
    rw [Markdown.read_leave_enter .tableRow rfl] at hleave
    rw [Markdown.foldl_part]
    exact ih hleave

theorem table (h : Drawn frames parts whole state) {head body : List Event} (hhead : Cells head)
    (hbody : Rows body) (alignments : List Markdown.ColumnAlignment)
    : Drawn frames parts whole
        (Styling.step style
          ((Event.enter .tableHead :: head ++ .leave .tableHead :: body).foldl
            (Styling.step style) (Styling.step style state (.enter (.table alignments))))
          (.leave .table)) := by
  have htable := h.enter style (.table alignments) rfl rfl
  have hopen := htable.enter style .tableHead rfl rfl
  -- The end of the head closes it and, in the open table, starts the body.
  have hclose := (hopen.cells style hhead).step style
    [.ofTag _ .tableHead rfl, .ofTag _ (.table alignments) rfl] [.tableBody alignments]
    (.leave (Tag.element .tableHead)) (by simp [Frame.ofTag, Tag.isNote])
    (by simp [Frame.tableBody, Tag.isNote]) rfl (by simp) rfl (fun outer => rfl)
  rw [Markdown.read_leave_enter .tableHead rfl] at hclose
  have hleave := (hclose.rows style hbody).step style [.tableBody alignments] []
    (.leave (Tag.element (.table alignments)))
    (by simp [Frame.tableBody, Tag.isNote]) (by simp) rfl (by simp) rfl (fun outer => rfl)
  rw [Markdown.read_leave_enter (.table alignments) rfl] at hleave
  rw [Markdown.foldl_part]
  exact hleave

theorem formed {events : List Event} (hevents : Formed events)
    (h : Drawn frames parts whole state)
    : Drawn frames (events.foldl Event.read parts) (whole && notesWholeFrom parts events)
        (events.foldl (Styling.step style) state) := by
  induction hevents generalizing frames parts whole state with
  | nil => simpa [notesWholeFrom] using h
  | content hcontent _ ih =>
    rw [List.foldl_cons, List.foldl_cons, notesWholeFrom, Markdown.read_of_isContent hcontent]
    rw [Markdown.cutsNothing_of_isContent hcontent, Bool.true_and]
    exact ih (h.content style hcontent)
  | @part tag inner rest himage hpart _ _ ihInner ihRest =>
    rw [Markdown.foldl_part, Markdown.foldl_part, Markdown.notesWholeFrom_part]
    rw [← Bool.and_assoc, ← Bool.and_assoc]
    cases hnote : tag.isNote with
    | true =>
      cases tag with
      | footnoteDefinition label =>
        have henter := h.enter_note style (.ofTag "" (.footnoteDefinition label) rfl) rfl
        exact ihRest ((ihInner henter).leave_note style rfl)
      | _ => simp [Tag.isNote] at hnote
    | false =>
      have hinner := ihInner (h.enter style tag himage hnote)
      have hleave := hinner.leave style hnote (Side.run_closing _ _ himage hpart)
      rw [Markdown.cutsNothing_enter hnote, Bool.and_true]
      exact ihRest hleave
  | @image url title inner rest hinner _ ihRest =>
    obtain ⟨hread, hwhole⟩ :=
      hinner.keepsNotes.read_part (.image url title) rfl rest parts
    dsimp only [Tag.element] at hread hwhole
    rw [hread, hwhole]
    rw [Markdown.foldl_part]
    exact ihRest (h.read_image style hinner url title)
  | @table alignments head body rest hhead hbody _ ihRest =>
    have hkeeps : KeepsNotes (.enter .tableHead :: head ++ .leave .tableHead :: body) :=
      hhead.keepsNotes.part .tableHead rfl hbody.keepsNotes
    obtain ⟨hread, hwhole⟩ := hkeeps.read_part (.table alignments) rfl rest parts
    dsimp only [Tag.element] at hread hwhole
    rw [hread, hwhole]
    rw [Markdown.foldl_part]
    exact ihRest (h.table style hhead hbody alignments)

end Drawn

namespace Note

variable (directives : DirectiveSet)

theorem balanced_backlinks (label : String) (count : Nat)
    : Side.Balanced (Output.sides (.written (directives.backlinks label count))) := by
  rw [directives.sides_backlinks]
  exact Side.balanced_flatMap fun _ _ => rfl

theorem balanced_item {note : Note} (h : Side.Balanced (note.body.flatMap Output.sides))
    : Side.Balanced ((note.item directives).flatMap Output.sides) := by
  obtain ⟨front, back, hparted, hitem⟩ := note.item_eq directives
  rw [hparted.eq_append, List.flatMap_append] at h
  have hinner := (h.insert (balanced_backlinks directives note.label note.count)).wrap
    (.element "li")
  rw [hitem]
  simpa [Output.sides, Html.Markup.side?, Html.Markup.lineFeed, List.filterMap_cons] using hinner

theorem balanced_list {notes : List Note}
    (h : ∀ note ∈ notes, Side.Balanced (note.body.flatMap Output.sides))
    : Side.Balanced ((list directives notes).flatMap Output.sides) := by
  have hitems : Side.Balanced ((notes.flatMap (item directives)).flatMap Output.sides) := by
    rw [List.flatMap_assoc]
    exact Side.balanced_flatMap fun note hnote => balanced_item directives (h note hnote)
  unfold list
  split
  . rfl
  . have := (hitems.wrap (.element "ol")).wrap (.element "div")
    simpa [Output.sides, Html.Markup.side?, Html.Markup.lineFeed, List.filterMap_cons] using this

end Note

namespace Drawn

variable {style : Style} {state : Styling} {parts : Option (List Tag)} {whole : Bool}

/-- At the end of a document, all sheets lie open. -/
theorem sheets_end (h : Drawn [] parts whole state)
    : Bears [] whole (state.output.toList.flatMap Output.sides)
        ∧ ∀ note ∈ state.footnotes.close.notes,
            Side.Balanced (note.body.flatMap Output.sides) := by
  have hsheets := h.sheets
  cases hcurrent : state.footnotes.current with
  | some page =>
    rw [hcurrent] at hsheets
    obtain ⟨inner, note, below, hframes, _⟩ := hsheets
    simp at hframes
  | none =>
    have hclose : state.footnotes.close = state.footnotes := by simp [Footnotes.close, hcurrent]
    rw [hcurrent] at hsheets
    refine ⟨hsheets.2, ?_⟩
    intro note hnote
    rw [hclose, Footnotes.notes, List.mem_filterMap] at hnote
    obtain ⟨⟨label, count⟩, _, hnote⟩ := hnote
    rw [Option.map_eq_some_iff] at hnote
    obtain ⟨body, hbody, rfl⟩ := hnote
    exact h.definitions (label, body) (mem_of_lookup_eq_some hbody)

end Drawn

/--
What an output opens it closes, the last first, if no footnote definition starts in an open part of
another one, and only then.
-/
theorem balanced_iff_notesWhole (style : Style) {events : List Event} (hformed : Formed events)
    : Side.Balanced ((style.apply events).flatMap Output.sides) ↔ NotesWhole events := by
  obtain ⟨hbears, hnotes⟩ := (Drawn.start.formed style hformed).sheets_end
  have hlist := Note.balanced_list style.directives hnotes
  unfold Style.apply Styling.finish
  rw [List.flatMap_append]
  rw [Bool.true_and] at hbears
  constructor
  . intro h
    -- A sheet that is not whole has too few brackets open, whatever the list adds to it.
    have hzero := h.weights_eq_zero
    rw [Side.weights_append, hlist.weights_eq_zero] at hzero
    unfold NotesWhole
    by_contra hcut
    have := hbears.weights_lt (by simpa using hcut)
    simp only [Frame.outline_nil, List.length_nil, Int.natCast_zero] at this
    omega
  . intro h
    exact Side.Balanced.append (hbears.run h) hlist

/-- The note is defined in a quotation in another note, which is never closed as it was opened. -/
theorem output_unbalanced
    : let events : List Event :=
        [.enter .paragraph, .footnoteReference "a", .footnoteReference "b", .leave .paragraph,
          .enter (.footnoteDefinition "a"), .enter .blockQuote, .text "quote",
          .enter (.footnoteDefinition "b"), .text "y", .leave .footnoteDefinition,
          .leave .blockQuote, .leave .footnoteDefinition]
      Formed events ∧ ¬Side.Balanced ((Style.initial.apply events).flatMap Output.sides) := by
  intro events
  have hnote : Formed
      [.enter (.footnoteDefinition "b"), .text "y", .leave .footnoteDefinition] := by
    exact @Formed.part (.footnoteDefinition "b") [.text "y"] [] rfl rfl (.content rfl .nil) .nil
  have hformed : Formed events := by
    apply @Formed.part .paragraph [.footnoteReference "a", .footnoteReference "b"] _ rfl rfl
    . exact .content rfl (.content rfl .nil)
    . apply @Formed.part (.footnoteDefinition "a")
        [.enter .blockQuote, .text "quote", .enter (.footnoteDefinition "b"), .text "y",
          .leave .footnoteDefinition, .leave .blockQuote] [] rfl rfl
      . exact @Formed.part .blockQuote _ [] rfl rfl (.content rfl hnote) .nil
      . exact .nil
  refine ⟨hformed, ?_⟩
  rw [balanced_iff_notesWhole .initial hformed]
  decide

end DirectedMarkdown
