import DirectedMarkdown.Output.Styling

/-!
This module contains what a single event adds to the output. It does not depend on what has been
written before, so that the output of a document is put together from the emissions of its events.
-/

namespace DirectedMarkdown

theorem Footnotes.close_current (footnotes : Footnotes) : footnotes.close.current = none := by
  unfold close
  split
  . assumption
  . rfl

namespace Styling

open Markdown (Element Event Tag)

/-- The state as it is before anything is written. -/
def fresh (state : Styling) : Styling :=
  { state with
    output := #[]
    footnotes := { state.footnotes with definitions := [], current := none } }

/-- The state, with what `pages` has written. -/
def on (state pages : Styling) : Styling :=
  { state with
    output := pages.output
    footnotes := { pages.footnotes with referenced := state.footnotes.referenced } }

def pushAll (state : Styling) (steps : List Output) : Styling :=
  steps.foldl push state

/-- What an event adds to the output. -/
def emission (style : Style) (state : Styling) (event : Event) : List Output :=
  (step style state.fresh event).output.toList

theorem emission_of_image_none (style : Style) {state : Styling} (himage : state.image = none)
    (event : Event)
    : emission style state event = (state.fresh.visit style event).output.toList := by
  have hfresh : state.fresh.image = none := himage
  unfold emission step
  rw [hfresh]

/-- Whether an event starts or ends a footnote definition. -/
def turnsPage (state : Styling) : Event → Bool
  | .enter (.footnoteDefinition _) | .leave .footnoteDefinition => state.image.isNone
  | _ => false

section Push

variable (state : Styling) (step : Output) (steps : List Output)

@[simp]
theorem push_image : (state.push step).image = state.image := by
  unfold push
  split <;> rfl

@[simp]
theorem push_table : (state.push step).table = state.table := by
  unfold push
  split <;> rfl

@[simp]
theorem push_referenced
    : (state.push step).footnotes.referenced = state.footnotes.referenced := by
  unfold push
  split <;> rfl

@[simp]
theorem write_image (pieces : List Html.Markup) : (state.write pieces).image = state.image := by
  apply push_image

@[simp]
theorem keep_image (event : Event) : (state.keep event).image = state.image := by
  apply push_image

theorem pushAll_of_current_none (h : state.footnotes.current = none)
    : state.pushAll steps = { state with output := state.output ++ steps.toArray } := by
  induction steps generalizing state with
  | nil => simp [pushAll]
  | cons step steps ih =>
    have hpush : state.push step = { state with output := state.output.push step } := by
      simp [push, h]
    have : state.pushAll (step :: steps) = (state.push step).pushAll steps := rfl
    rw [this, ih _ (by rw [hpush]; exact h), hpush]
    simp

theorem pushAll_of_current_some {label : String} {body : Array Output}
    (h : state.footnotes.current = some (label, body))
    : state.pushAll steps
        = { state with footnotes.current := some (label, body ++ steps.toArray) } := by
  induction steps generalizing state body with
  | nil => simp [pushAll, ← h]
  | cons step steps ih =>
    have hpush : state.push step
        = { state with footnotes.current := some (label, body.push step) } := by
      simp [push, h]
    have : state.pushAll (step :: steps) = (state.push step).pushAll steps := rfl
    rw [this, ih _ (by rw [hpush]), hpush]
    simp

end Push

section Step

variable (style : Style) (state : Styling)

theorem collect_eq_pushAll (image : PendingImage) (event : Event)
    : state.collect style image event
        = ((state.fresh.collect style image event).on state).pushAll
            (state.fresh.collect style image event).output.toList := by
  cases event with
  | enter tag => cases tag <;> rfl
  | leave element =>
    cases element with
    | image =>
      unfold collect
      by_cases h : 0 < image.depth
      . simp only [h, ↓reduceIte]
        rfl
      . simp only [h, ↓reduceIte]
        rfl
    | _ => rfl
  | _ => rfl

theorem visit_eq_pushAll (event : Event) (himage : state.image = none)
    (h : state.turnsPage event = false)
    : state.visit style event
        = ((state.fresh.visit style event).on state).pushAll
            (state.fresh.visit style event).output.toList := by
  cases event with
  | enter tag =>
    cases tag with
    | footnoteDefinition label => simp [turnsPage, himage] at h
    | _ => rfl
  | leave element =>
    cases element with
    | footnoteDefinition => simp [turnsPage, himage] at h
    | _ => rfl
  | text content =>
    -- How text is decorated depends on what it stands in only.
    have hcode : state.fresh.inCodeBlock = state.inCodeBlock := rfl
    have hdepth : state.fresh.linkDepth = state.linkDepth := rfl
    simp only [visit, text, hcode, hdepth]
    by_cases h : state.inCodeBlock
    . simp only [h, ↓reduceIte]
      rfl
    . simp only [h, Bool.false_eq_true, ↓reduceIte]
      cases style.decorator.decorate content (0 < state.linkDepth) <;> rfl
  | softBreak =>
    simp only [visit]
    by_cases h : style.directives.breaksEnabled
    . simp only [h, ↓reduceIte]
      rfl
    . simp only [h, Bool.false_eq_true, ↓reduceIte]
      rfl
  | _ => rfl

theorem step_eq_pushAll (event : Event) (h : state.turnsPage event = false)
    : step style state event
        = ((step style state.fresh event).on state).pushAll (emission style state event) := by
  have hfresh : state.fresh.image = state.image := rfl
  unfold emission step
  rw [hfresh]
  split
  . apply collect_eq_pushAll
  . next himage => exact visit_eq_pushAll style state event himage h

theorem step_enter_note (label : String) (himage : state.image = none)
    : step style state (.enter (.footnoteDefinition label))
        = { state with footnotes := state.footnotes.open label } := by
  simp [step, himage, visit, enter]

theorem step_leave_note (himage : state.image = none)
    : step style state (.leave .footnoteDefinition)
        = { state with footnotes := state.footnotes.close } := by
  simp [step, himage, visit, leave]

theorem emission_enter_note (label : String)
    : emission style state (.enter (.footnoteDefinition label)) = [] := by
  unfold emission step
  cases state.fresh.image <;> rfl

theorem emission_leave_note : emission style state (.leave .footnoteDefinition) = [] := by
  unfold emission step
  cases state.fresh.image <;> rfl

theorem step_of_current_none {event : Event} (h : state.turnsPage event = false)
    (hcurrent : state.footnotes.current = none)
    : (step style state event).output = state.output ++ (emission style state event).toArray
        ∧ (step style state event).footnotes.current = none
        ∧ (step style state event).footnotes.definitions = state.footnotes.definitions := by
  rw [step_eq_pushAll style state event h]
  rw [pushAll_of_current_none]
  . exact ⟨rfl, hcurrent, rfl⟩
  . exact hcurrent

theorem step_of_current_some {event : Event} {label : String} {body : Array Output}
    (h : state.turnsPage event = false)
    (hcurrent : state.footnotes.current = some (label, body))
    : (step style state event).output = state.output
        ∧ (step style state event).footnotes.current
            = some (label, body ++ (emission style state event).toArray)
        ∧ (step style state event).footnotes.definitions = state.footnotes.definitions := by
  have hon : ((step style state.fresh event).on state).footnotes.current = some (label, body) :=
    hcurrent
  rw [step_eq_pushAll style state event h]
  rw [pushAll_of_current_some _ _ hon]
  exact ⟨rfl, rfl, rfl⟩

end Step

end Styling

end DirectedMarkdown
