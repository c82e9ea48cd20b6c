import DirectedMarkdown.Proofs.Directive.Initial
import DirectedMarkdown.Proofs.Output.Sheet
import DirectedMarkdown.Proofs.Output.TablePlace
import DirectedMarkdown.Proofs.Output.Trace

/-!
This module contains what is written of a table. The cells are aligned as their columns are,
whatever stands in them and whatever was read before.
-/

namespace DirectedMarkdown

open Html (Attribute Markup)
open Markdown (ColumnAlignment Event Running Tag)

namespace Markdown

/-- The events of a part of a document. -/
def part (tag : Tag) (inner : List Event) : List Event :=
  .enter tag :: inner ++ [.leave tag.element]

/-- A cell of a table. -/
structure Cell where
  content : List Event
  running : Running content

structure Table where
  alignments : List ColumnAlignment
  head : List Cell
  rows : List (List Cell)

def Cell.events (cell : Cell) : List Event :=
  part .tableCell cell.content

/-- The events of a row of the body. -/
def rowEvents (row : List Cell) : List Event :=
  part .tableRow (row.flatMap Cell.events)

def Table.events (table : Table) : List Event :=
  part (.table table.alignments)
    (part .tableHead (table.head.flatMap Cell.events) ++ table.rows.flatMap rowEvents)

end Markdown

open Markdown (Cell Table)

namespace DirectiveSet

/--
The attribute of cells that are aligned to a side: the class that is configured for it, if this is
not empty, and a style without such a setting.
-/
def sideAttributes (directives : DirectiveSet) (side : String) : List Attribute :=
  match directives.tableAlignClass with
  | none => [{ name := "style", value := "text-align: " ++ side ++ ";" }]
  | some template =>
    let className := Template.fill template [side]
    if className = "" then [] else [{ name := "class", value := className }]

/-- The attributes of the cells in a column of a table. -/
def columnAttributes (directives : DirectiveSet) (alignments : List ColumnAlignment)
    (column : Nat) : List Attribute :=
  match alignments[column]? with
  | none | some .none => []
  | some .left => directives.sideAttributes "left"
  | some .center => directives.sideAttributes "center"
  | some .right => directives.sideAttributes "right"

theorem sideAttributes_eq (directives : DirectiveSet) {alignment : ColumnAlignment} {side : String}
    (h : alignmentName? alignment = some side)
    : directives.cellAttributes alignment = directives.sideAttributes side := by
  unfold cellAttributes sideAttributes Attribute.ofClass
  rw [h]
  dsimp only
  split
  . next template htemplate => simp [htemplate]
  . next hnone => simp [hnone]

theorem cellAttributes_alignment (directives : DirectiveSet) (table : TableState)
    : directives.cellAttributes table.alignment
        = directives.columnAttributes table.alignments table.column := by
  unfold columnAttributes TableState.alignment
  cases table.alignments[table.column]? with
  | none => rfl
  | some alignment =>
    cases alignment with
    | none => rfl
    | left => exact directives.sideAttributes_eq rfl
    | center => exact directives.sideAttributes_eq rfl
    | right => exact directives.sideAttributes_eq rfl

end DirectiveSet

/-- The elements that tables are written with. -/
def Html.tableNames : List String :=
  ["table", "thead", "tbody", "tr", "th", "td"]

theorem Markdown.openable_subset_of_isRunning {event : Event} (h : event.isRunning)
    : event.openable ⊆ ["pre", "code", "a", "abbr", "sup"] := by
  cases event with
  | enter tag =>
    cases tag <;> simp_all [Event.isRunning, Event.isTablePart, Tag.isTablePart, Event.openable]
  | leave element =>
    cases element <;> simp_all [Event.isRunning, Event.isTablePart, Event.openable]
  | _ => simp [Event.openable]

namespace Trace

/-- A part of a document whose start and end are written so. -/
def part (tag : Tag) (start : List Markup) (inner : Trace) (stop : List Markup) : Trace :=
  (.enter tag, [.written start]) :: inner ++ [(.leave tag.element, [.written stop])]

/-- The cells of a row, each with the attributes of its column. -/
def cells (name : String) (attributes : Nat → List Attribute) (contents : List Trace) : Trace :=
  (contents.mapIdx fun column content =>
    part .tableCell [.startTag name (attributes column)] content [.endTag name, .lineFeed]).flatten

theorem cells_cons (name : String) (attributes : Nat → List Attribute) (content : Trace)
    (rest : List Trace)
    : cells name attributes (content :: rest)
        = part .tableCell [.startTag name (attributes 0)] content [.endTag name, .lineFeed]
          ++ cells name (fun column => attributes (column + 1)) rest := by
  unfold cells
  rw [List.mapIdx_cons, List.flatten_cons]

def row (attributes : Nat → List Attribute) (contents : List Trace) : Trace :=
  part .tableRow [.startTag "tr" [], .lineFeed] (cells "td" attributes contents)
    [.endTag "tr", .lineFeed]

/-- A table with these contents of its head, and of the rows of its body. -/
def table (directives : DirectiveSet) (alignments : List ColumnAlignment) (head : List Trace)
    (rows : List (List Trace)) : Trace :=
  let attributes := directives.columnAttributes alignments
  part (.table alignments) [.startTag "table" directives.tableAttributes, .lineFeed]
    (part .tableHead [.startTag "thead" [], .lineFeed, .startTag "tr" [], .lineFeed]
        (cells "th" attributes head)
        [.endTag "tr", .lineFeed, .endTag "thead", .lineFeed, .startTag "tbody" [], .lineFeed]
      ++ rows.flatMap (row attributes))
    [.endTag "tbody", .lineFeed, .endTag "table", .lineFeed]

end Trace

namespace Styling

variable {style : Style} {state : Styling}

theorem adds_foldl_step (style : Style) (state : Styling) {events : List Event}
    (h : ∀ event ∈ events, event.isRunning)
    : state.Adds (events.foldl (step style) state)
        ((trace style state events).flatMap Prod.snd) := by
  induction events generalizing state with
  | nil => exact Adds.refl state
  | cons event rest ih =>
    rw [List.forall_mem_cons] at h
    rw [trace, List.flatMap_cons]
    exact (adds_emission style state event (turnsPage_of_isRunning h.1)).trans (ih _ h.2)

/-- What the contents of cells add to the output, one after the other. -/
def traces (style : Style) (state : Styling) : List Cell → List Trace
  | [] => []
  | cell :: rest =>
    trace style state cell.content :: traces style (cell.content.foldl (step style) state) rest

def rowTraces (style : Style) (state : Styling) : List (List Cell) → List (List Trace)
  | [] => []
  | row :: rest =>
    traces style state row
      :: rowTraces style ((row.flatMap Cell.content).foldl (step style) state) rest

theorem traces_append (style : Style) (state : Styling) (xs ys : List Cell)
    : traces style state (xs ++ ys)
        = traces style state xs
          ++ traces style ((xs.flatMap Cell.content).foldl (step style) state) ys := by
  induction xs generalizing state with
  | nil => rfl
  | cons x xs ih => simp [traces, ih]

theorem flatten_rowTraces (style : Style) (state : Styling) (rows : List (List Cell))
    : (rowTraces style state rows).flatten = traces style state rows.flatten := by
  induction rows generalizing state with
  | nil => rfl
  | cons row rest ih => simp [rowTraces, traces_append, ih]

theorem exists_trace_of_mem_traces {row : List Cell} {content : Trace}
    (h : content ∈ traces style state row)
    : ∃ (cell : Cell) (before : Styling), content = trace style before cell.content := by
  induction row generalizing state with
  | nil => simp [traces] at h
  | cons cell rest ih =>
    rw [traces, List.mem_cons] at h
    cases h with
    | inl heq => exact ⟨cell, state, heq⟩
    | inr hmem => exact ih hmem

/-- What stands in a cell opens no table. -/
theorem opens_not_mem_sides_trace (style : Style) (state : Styling) {events : List Event}
    (h : ∀ event ∈ events, event.isRunning) {name : String}
    (hname : name ∈ Html.tableNames)
    : .opens (.element name)
        ∉ ((trace style state events).flatMap Prod.snd).flatMap Output.sides := by
  induction events generalizing state with
  | nil => simp [trace]
  | cons event rest ih =>
    rw [List.forall_mem_cons] at h
    rw [trace, List.flatMap_cons, List.flatMap_append, List.mem_append, not_or]
    refine ⟨?_, ih _ h.2⟩
    intro hopens
    have hmem := Markdown.openable_subset_of_isRunning h.1
      (mem_openable_of_emission style state hopens)
    have hnone : ∀ name ∈ ["pre", "code", "a", "abbr", "sup"], name ∉ Html.tableNames := by
      decide
    exact hnone name hmem hname

theorem trace_of_blank {other : Styling} {events : List Event}
    (h : ∀ event ∈ events, event.isRunning) (hblank : other.blank = state.blank)
    : trace style other events = trace style state events
        ∧ (events.foldl (step style) other).blank = (events.foldl (step style) state).blank := by
  induction events generalizing state other with
  | nil => exact ⟨rfl, hblank⟩
  | cons event rest ih =>
    rw [List.forall_mem_cons] at h
    obtain ⟨htrace, hlast⟩ := ih h.2 (blank_step (turnsPage_of_isRunning h.1) hblank)
    -- The place in a table would tell in a cell of it only.
    have hemission : emission style other event = emission style state event := by
      apply emission_of_blank hblank
      intro hcell
      rw [Markdown.isCell_of_isRunning h.1] at hcell
      contradiction
    rw [trace, trace, hemission, htrace]
    exact ⟨rfl, hlast⟩

/-- The state is at this place in a table, and all else is as in a state without the table. -/
structure Within (outside : Styling) (table : TableState) (state : Styling) : Prop where
  image : state.image = none
  blank : state.blank = outside.blank
  table : state.table = table

/--
What the events add to the output at this place in a table, and the place and the state without the
table that are behind them.
-/
structure Lays (style : Style) (outside : Styling) (place : TableState) (events : List Event)
    (written : Trace) (beyond : Styling) (moved : TableState) : Prop where
  trace_eq : ∀ state, Within outside place state → trace style state events = written
  within : ∀ state, Within outside place state →
    Within beyond moved (events.foldl (step style) state)
  adds : ∀ state, Within outside place state →
    state.Adds (events.foldl (step style) state) (written.flatMap Prod.snd)

namespace Lays

variable {outside beyond last : Styling} {place moved final : TableState} {xs ys : List Event}
  {written more : Trace}

theorem nil : Lays style outside place [] [] outside place where
  trace_eq _ _ := rfl
  within _ h := h
  adds state _ := Adds.refl state

theorem append (hx : Lays style outside place xs written beyond moved)
    (hy : Lays style beyond moved ys more last final)
    : Lays style outside place (xs ++ ys) (written ++ more) last final where
  trace_eq state h := by
    rw [trace_append, hx.trace_eq state h, hy.trace_eq _ (hx.within state h)]
  within state h := by
    rw [List.foldl_append]
    exact hy.within _ (hx.within state h)
  adds state h := by
    rw [List.foldl_append, List.flatMap_append]
    exact (hx.adds state h).trans (hy.adds _ (hx.within state h))

theorem step {event : Event} (hpart : event.isTablePart) {pieces : List Markup}
    (hpieces : ∀ state : Styling, state.table = place →
      (state.fresh.visit style event).output.toList = [.written pieces])
    : Lays style outside place [event] [(event, [.written pieces])] outside
        (place.after event) where
  trace_eq state h := by
    rw [trace, emission_of_image_none style h.image, hpieces state h.table]
    rfl
  within state h := by
    have hblank := blank_step_of_isTablePart style h.image hpart
    refine ⟨?_, ?_, ?_⟩
    . exact (image_of_blank hblank).trans h.image
    . exact hblank.trans h.blank
    . rw [← h.table]
      exact table_step style h.image event
  adds state h := by
    have hadds := adds_emission style state event (turnsPage_of_isTablePart hpart)
    rw [emission_of_image_none style h.image, hpieces state h.table] at hadds
    exact hadds

/-- What stands in a cell is written as it is without the table. -/
theorem running {events : List Event} (h : Running events)
    : Lays style outside place events (trace style outside events)
        (events.foldl (Styling.step style) outside) place where
  trace_eq _ hstate := (trace_of_blank h.forall_isRunning hstate.blank).1
  within state hstate := by
    refine ⟨?_, ?_, ?_⟩
    . exact image_foldl_step style h.wellNested hstate.image
    . exact (trace_of_blank h.forall_isRunning hstate.blank).2
    . exact (table_foldl_step style state h.forall_isRunning).trans hstate.table
  adds state hstate := by
    rw [← (trace_of_blank h.forall_isRunning hstate.blank).1]
    exact adds_foldl_step style state h.forall_isRunning

theorem part {tag : Tag} (hpart : tag.isTablePart) {start stop : List Markup} {inner : List Event}
    (hstart : ∀ state : Styling, state.table = place →
      (state.fresh.enter style tag).output.toList = [.written start])
    (hinner : Lays style outside (place.after (.enter tag)) inner written beyond moved)
    (hstop : ∀ state : Styling, state.table = moved →
      (state.fresh.leave tag.element).output.toList = [.written stop])
    : Lays style outside place (Markdown.part tag inner) (Trace.part tag start written stop) beyond
        (moved.after (.leave tag.element)) := by
  have henter : (Event.enter tag).isTablePart := hpart
  have hleave : (Event.leave tag.element).isTablePart := by
    cases tag <;> simp_all [Tag.isTablePart, Tag.element, Event.isTablePart]
  exact ((step henter hstart).append hinner).append (step hleave hstop)

theorem cell (cell : Cell)
    : Lays style outside place cell.events
        (.part .tableCell
          [.startTag place.cellName
            (style.directives.columnAttributes place.alignments place.column)]
          (trace style outside cell.content) [.endTag place.cellName, .lineFeed])
        (cell.content.foldl (Styling.step style) outside)
        { place with column := place.column + 1 } := by
  refine part rfl ?_ (running cell.running) ?_
  . intro state htable
    rw [← htable, ← DirectiveSet.cellAttributes_alignment]
    rfl
  . intro state htable
    rw [← htable]
    rfl

/-- The cells are counted on from the place in the table. -/
theorem cells (row : List Cell)
    : Lays style outside place (row.flatMap Cell.events)
        (.cells place.cellName
          (fun column =>
            style.directives.columnAttributes place.alignments (place.column + column))
          (traces style outside row))
        ((row.flatMap Cell.content).foldl (Styling.step style) outside)
        { place with column := place.column + row.length } := by
  induction row generalizing outside place with
  | nil => exact nil
  | cons first rest ih =>
    have hfirst : Lays style outside place first.events _ _ _ := cell first
    have hboth := hfirst.append ih
    -- Behind the first cell, the columns are counted from the second one.
    have hcolumn : ∀ column, place.column + 1 + column = place.column + (column + 1) := by omega
    simp only [hcolumn] at hboth
    rw [traces, Trace.cells_cons, List.flatMap_cons, List.flatMap_cons, List.foldl_append]
    exact hboth

/-- Each row starts at the first column. -/
theorem cells_of_start (alignments : List ColumnAlignment) (inHead : Bool) (row : List Cell)
    : Lays style outside ⟨alignments, inHead, 0⟩ (row.flatMap Cell.events)
        (.cells (if inHead then "th" else "td") (style.directives.columnAttributes alignments)
          (traces style outside row))
        ((row.flatMap Cell.content).foldl (Styling.step style) outside)
        ⟨alignments, inHead, row.length⟩ := by
  have hcells : Lays style outside ⟨alignments, inHead, 0⟩ _ _ _ _ := cells row
  simp only [Nat.zero_add] at hcells
  exact hcells

theorem row (alignments : List ColumnAlignment) (column : Nat) (row : List Cell)
    : Lays style outside ⟨alignments, false, column⟩ (Markdown.rowEvents row)
        (.row (style.directives.columnAttributes alignments) (traces style outside row))
        ((row.flatMap Cell.content).foldl (Styling.step style) outside)
        ⟨alignments, false, row.length⟩ := by
  exact part rfl (fun _ _ => rfl) (cells_of_start alignments false row) (fun _ _ => rfl)

theorem rows (alignments : List ColumnAlignment) (column : Nat) (rows : List (List Cell))
    : ∃ last, Lays style outside ⟨alignments, false, column⟩ (rows.flatMap Markdown.rowEvents)
        ((rowTraces style outside rows).flatMap
          (Trace.row (style.directives.columnAttributes alignments)))
        ((rows.flatten.flatMap Cell.content).foldl (Styling.step style) outside)
        ⟨alignments, false, last⟩ := by
  induction rows generalizing outside column with
  | nil => exact ⟨column, nil⟩
  | cons first rest ih =>
    have hfirst : Lays style outside ⟨alignments, false, column⟩ (Markdown.rowEvents first) _ _ _ :=
      row alignments column first
    obtain ⟨last, hrest⟩ := @ih
      ((first.flatMap Cell.content).foldl (Styling.step style) outside) first.length
    rw [rowTraces, List.flatMap_cons, List.flatMap_cons, List.flatten_cons, List.flatMap_append]
    rw [List.foldl_append]
    exact ⟨last, hfirst.append hrest⟩

theorem head (alignments : List ColumnAlignment) (head : List Cell)
    : Lays style outside (.start alignments)
        (Markdown.part .tableHead (head.flatMap Cell.events))
        (.part .tableHead [.startTag "thead" [], .lineFeed, .startTag "tr" [], .lineFeed]
          (.cells "th" (style.directives.columnAttributes alignments) (traces style outside head))
          [.endTag "tr", .lineFeed, .endTag "thead", .lineFeed, .startTag "tbody" [], .lineFeed])
        ((head.flatMap Cell.content).foldl (Styling.step style) outside)
        ⟨alignments, false, head.length⟩ := by
  have hcells : Lays style outside ((TableState.start alignments).after (.enter .tableHead))
      _ _ _ _ := cells_of_start alignments true head
  exact part rfl (fun _ _ => rfl) hcells (fun _ _ => rfl)

theorem table (table : Table) (place : TableState)
    : ∃ last, Lays style outside place table.events
        (.table style.directives table.alignments (traces style outside table.head)
          (rowTraces style ((table.head.flatMap Cell.content).foldl (Styling.step style) outside)
            table.rows))
        (((table.head ++ table.rows.flatten).flatMap Cell.content).foldl (Styling.step style)
          outside)
        last := by
  obtain ⟨last, hrows⟩ := rows table.alignments table.head.length table.rows
  have hhead : Lays style outside (.start table.alignments) _ _ _ _ :=
    head table.alignments table.head
  rw [List.flatMap_append, List.foldl_append]
  exact ⟨_, part rfl (fun _ _ => rfl) (hhead.append hrows) (fun _ _ => rfl)⟩

end Lays

end Styling

/--
Where no image is open, the cells of the head of a table are written as `th`, and those of its rows
as `td`, each with the attributes of its column. What stands in them is written as it is without the
table, and opens no part of a table.
-/
theorem table_cells_aligned (style : Style) (table : Table) {state : Styling}
    (himage : state.image = none)
    : let head := Styling.traces style state table.head
      let rows := Styling.rowTraces style
        ((table.head.flatMap Cell.content).foldl (Styling.step style) state) table.rows
      let written := Trace.table style.directives table.alignments head rows
      Styling.trace style state table.events = written
        ∧ state.Adds (table.events.foldl (Styling.step style) state) (written.flatMap Prod.snd)
        ∧ ∀ content ∈ head ++ rows.flatten, ∀ name ∈ Html.tableNames,
            .opens (.element name) ∉ (content.flatMap Prod.snd).flatMap Output.sides := by
  intro head rows written
  have hwithin : Styling.Within state state.table state := ⟨himage, rfl, rfl⟩
  obtain ⟨last, hlays⟩ := Styling.Lays.table table state.table
  refine ⟨hlays.trace_eq state hwithin, hlays.adds state hwithin, ?_⟩
  intro content hcontent name hname
  -- The rows go on where the head ends, so that all contents are traced in one go.
  have hall : head ++ rows.flatten
      = Styling.traces style state (table.head ++ table.rows.flatten) := by
    rw [Styling.traces_append, Styling.flatten_rowTraces]
  rw [hall] at hcontent
  obtain ⟨cell, before, rfl⟩ := Styling.exists_trace_of_mem_traces hcontent
  exact Styling.opens_not_mem_sides_trace style before cell.running.forall_isRunning hname

/-- In a footnote definition, with what is left of another table, and one cell beyond the columns. -/
theorem table_cells_aligned_stale
    : let image : Cell :=
        { content := [.enter (.image "y.png" ""), .code "b", .leave .image]
          running :=
            @Running.part (.image "y.png" "") [.code "b"] [] rfl rfl (.content rfl .nil) .nil }
      let reference : Cell :=
        { content := [.footnoteReference "a"], running := .content rfl .nil }
      let empty : Cell := { content := [], running := .nil }
      let table : Table :=
        { alignments := [.left, .none]
          head := [image, empty]
          rows := [[reference, empty, image]] }
      let state : Styling :=
        { Styling.start with
          table := { alignments := [.right], inHead := true, column := 3 }
          footnotes :=
            { referenced := [("a", 1)], definitions := [], current := some ("n", #[]) } }
      let left : List Attribute := [{ name := "style", value := "text-align: left;" }]
      let tag : Output := .written [Style.initial.directives.imageTag "y.png" "b" ""]
      state.image = none
        ∧ (table.events.foldl (Styling.step .initial) state).footnotes.current.map
            (fun page => page.2.toList)
          = some
            [.written [.startTag "table" [], .lineFeed],
              .written [.startTag "thead" [], .lineFeed, .startTag "tr" [], .lineFeed],
              .written [.startTag "th" left], tag, .written [.endTag "th", .lineFeed],
              .written [.startTag "th" []], .written [.endTag "th", .lineFeed],
              .written [.endTag "tr", .lineFeed, .endTag "thead", .lineFeed,
                .startTag "tbody" [], .lineFeed],
              .written [.startTag "tr" [], .lineFeed],
              .written [.startTag "td" left],
              .written (Style.initial.directives.noteReference "a" 1 2),
              .written [.endTag "td", .lineFeed],
              .written [.startTag "td" []], .written [.endTag "td", .lineFeed],
              .written [.startTag "td" []], tag, .written [.endTag "td", .lineFeed],
              .written [.endTag "tr", .lineFeed],
              .written [.endTag "tbody", .lineFeed, .endTag "table", .lineFeed]] := by
  intro image reference empty table state left tag
  refine ⟨rfl, ?_⟩
  obtain ⟨-, hadds, -⟩ := @table_cells_aligned .initial table state rfl
  obtain ⟨⟨after, hcurrent, hafter⟩, -⟩ := hadds.inside "n" #[] rfl
  rw [hcurrent, Option.map_some, hafter]
  decide +kernel

end DirectedMarkdown
