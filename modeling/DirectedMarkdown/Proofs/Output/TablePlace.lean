import DirectedMarkdown.Proofs.Markdown.Formed
import DirectedMarkdown.Proofs.Output.Emission

/-!
This module contains the place in a table that a state keeps. It tells in the cells of the table
only, and nothing but the parts of the table move it.
-/

namespace DirectedMarkdown

open Markdown (Event Running Tag)

/-- Whether the event starts or ends a cell of a table. -/
def Markdown.Event.isCell : Event → Bool
  | enter .tableCell | leave .tableCell => true
  | _ => false

theorem Markdown.isCell_of_isRunning {event : Event} (h : event.isRunning)
    : event.isCell = false := by
  unfold Event.isCell
  split
  . simp [Event.isRunning, Event.isTablePart, Tag.isTablePart] at h
  . simp [Event.isRunning, Event.isTablePart] at h
  . rfl

/-- The place in a table behind an event. -/
def TableState.after (table : TableState) : Event → TableState
  | .enter (.table alignments) => start alignments
  | .enter .tableHead => { table with inHead := true, column := 0 }
  | .leave .tableHead => { table with inHead := false }
  | .enter .tableRow => { table with column := 0 }
  | .leave .tableCell => { table with column := table.column + 1 }
  | _ => table

theorem TableState.after_of_isRunning {event : Event} (h : event.isRunning) (table : TableState)
    : table.after event = table := by
  cases event with
  | enter tag => cases tag <;> simp_all [Event.isRunning, Event.isTablePart, Tag.isTablePart, after]
  | leave element => cases element <;> simp_all [Event.isRunning, Event.isTablePart, after]
  | _ => rfl

namespace Styling

variable {style : Style} {state other : Styling} {event : Event} {events : List Event}

theorem table_collect (style : Style) (state : Styling) (image : PendingImage) (event : Event)
    : (state.collect style image event).table = state.table := by
  cases event with
  | enter tag => cases tag <;> rfl
  | leave element =>
    cases element with
    | image =>
      dsimp only [collect]
      split
      . rfl
      . apply push_table
    | _ => rfl
  | _ => rfl

theorem table_visit (style : Style) (state : Styling) (event : Event)
    : (state.visit style event).table = state.table.after event := by
  cases event with
  | enter tag => cases tag <;> first | rfl | apply push_table
  | leave element => cases element <;> first | rfl | apply push_table
  | text content =>
    simp only [visit, text]
    split
    . apply push_table
    . split <;> apply push_table
  | softBreak =>
    simp only [visit]
    split <;> apply push_table
  | _ => apply push_table

theorem table_step (style : Style) (himage : state.image = none) (event : Event)
    : (step style state event).table = state.table.after event := by
  unfold step
  rw [himage]
  apply table_visit

theorem table_step_of_isRunning (style : Style) (state : Styling) (h : event.isRunning)
    : (step style state event).table = state.table := by
  unfold step
  split
  . apply table_collect
  . rw [table_visit, TableState.after_of_isRunning h]

/-- What stands in a cell leaves the place in the table as it is. -/
theorem table_foldl_step (style : Style) (state : Styling) (h : ∀ event ∈ events, event.isRunning)
    : (events.foldl (step style) state).table = state.table := by
  induction events generalizing state with
  | nil => rfl
  | cons event rest ih =>
    rw [List.forall_mem_cons] at h
    rw [List.foldl_cons, ih _ h.2, table_step_of_isRunning style state h.1]

/-- The state without the place in a table, as it is before anything is written. -/
def blank (state : Styling) : Styling :=
  { state.fresh with table := TableState.start [] }

theorem blank_of_fresh (h : other.fresh = state.fresh) : other.blank = state.blank := by
  unfold blank
  rw [h]

theorem fresh_of_blank (h : other.blank = state.blank) (htable : other.table = state.table)
    : other.fresh = state.fresh := by
  have heq : ∀ state : Styling, state.fresh = { state.blank with table := state.table } :=
    fun _ => rfl
  rw [heq, heq state, h, htable]

theorem image_of_blank (h : other.blank = state.blank) : other.image = state.image := by
  have himage := congrArg Styling.image h
  exact himage

theorem fresh_pushAll (steps : List Output) : (state.pushAll steps).fresh = state.fresh := by
  cases hcurrent : state.footnotes.current with
  | none =>
    rw [pushAll_of_current_none state steps hcurrent]
    rfl
  | some page =>
    rw [pushAll_of_current_some state steps hcurrent]
    rfl

/-- What was written makes no difference to what comes next. -/
theorem fresh_step (h : state.turnsPage event = false)
    : (step style state event).fresh = (step style state.fresh event).fresh := by
  rw [step_eq_pushAll style state event h, fresh_pushAll]
  rfl

/-- The place in a table makes a difference to its cells only. -/
theorem step_blank (style : Style) (state : Styling) (event : Event)
    : (step style state.blank event).blank = (step style state.fresh event).blank
        ∧ (event.isCell = false ∨ state.image.isSome →
          (step style state.blank event).output = (step style state.fresh event).output) := by
  have hblank : state.blank.image = state.image := rfl
  have hfresh : state.fresh.image = state.image := rfl
  unfold step
  rw [hblank, hfresh]
  cases state.image with
  | some image =>
    cases event with
    | enter tag => cases tag <;> exact ⟨rfl, fun _ => rfl⟩
    | leave element =>
      cases element with
      | image =>
        dsimp only [collect]
        split <;> exact ⟨rfl, fun _ => rfl⟩
      | _ => exact ⟨rfl, fun _ => rfl⟩
    | _ => exact ⟨rfl, fun _ => rfl⟩
  | none =>
    cases event with
    | enter tag =>
      cases tag with
      | tableCell => exact ⟨rfl, by simp [Event.isCell]⟩
      | _ => exact ⟨rfl, fun _ => rfl⟩
    | leave element =>
      cases element with
      | tableCell => exact ⟨rfl, by simp [Event.isCell]⟩
      | _ => exact ⟨rfl, fun _ => rfl⟩
    | text content =>
      have hcode : state.blank.inCodeBlock = state.fresh.inCodeBlock := rfl
      have hdepth : state.blank.linkDepth = state.fresh.linkDepth := rfl
      simp only [visit, text, hcode, hdepth]
      by_cases h : state.fresh.inCodeBlock
      . simp only [h, ↓reduceIte]
        exact ⟨rfl, fun _ => rfl⟩
      . simp only [h, Bool.false_eq_true, ↓reduceIte]
        cases style.decorator.decorate content (0 < state.fresh.linkDepth) <;>
          exact ⟨rfl, fun _ => rfl⟩
    | softBreak =>
      simp only [visit]
      split <;> exact ⟨rfl, fun _ => rfl⟩
    | _ => exact ⟨rfl, fun _ => rfl⟩

theorem turnsPage_of_blank (h : other.blank = state.blank) (event : Event)
    : other.turnsPage event = state.turnsPage event := by
  unfold turnsPage
  rw [image_of_blank h]

theorem blank_step_of_blank (h : state.turnsPage event = false)
    : (step style state event).blank = (step style state.blank event).blank := by
  rw [blank_of_fresh (fresh_step h), (step_blank style state event).1]

theorem blank_step (h : state.turnsPage event = false) (hblank : other.blank = state.blank)
    : (step style other event).blank = (step style state event).blank := by
  rw [blank_step_of_blank h, ← hblank, blank_step_of_blank]
  rw [turnsPage_of_blank hblank, h]

theorem turnsPage_of_isRunning (h : event.isRunning)
    : state.turnsPage event = false := by
  unfold turnsPage
  split
  . simp [Event.isRunning] at h
  . simp [Event.isRunning] at h
  . rfl

theorem turnsPage_of_isTablePart (h : event.isTablePart) : state.turnsPage event = false := by
  unfold turnsPage
  split
  . simp [Event.isTablePart, Tag.isTablePart] at h
  . simp [Event.isTablePart] at h
  . rfl

/-- The parts of a table move the place in it, and nothing else. -/
theorem blank_step_of_isTablePart (style : Style) (himage : state.image = none)
    (h : event.isTablePart) : (step style state event).blank = state.blank := by
  have hblank : state.blank.image = none := himage
  rw [blank_step_of_blank (turnsPage_of_isTablePart h)]
  unfold step
  rw [hblank]
  cases event with
  | enter tag => cases tag <;> first | rfl | simp [Event.isTablePart, Tag.isTablePart] at h
  | leave element => cases element <;> first | rfl | simp [Event.isTablePart] at h
  | _ => simp [Event.isTablePart] at h

theorem emission_of_fresh (h : other.fresh = state.fresh)
    : emission style other event = emission style state event := by
  unfold emission
  rw [h]

theorem emission_of_blank (hblank : other.blank = state.blank)
    (hcell : event.isCell → state.image = none → other.fresh = state.fresh)
    : emission style other event = emission style state event := by
  by_cases h : event.isCell = false ∨ state.image.isSome
  . unfold emission
    rw [← (step_blank style state event).2 h, ← hblank]
    rw [← image_of_blank hblank] at h
    rw [(step_blank style other event).2 h]
  . rw [not_or] at h
    exact emission_of_fresh (hcell (by simpa using h.1) (by simpa using h.2))

end Styling

end DirectedMarkdown
