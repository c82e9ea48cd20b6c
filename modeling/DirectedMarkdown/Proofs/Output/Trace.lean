import DirectedMarkdown.Proofs.Markdown.NoteReference
import DirectedMarkdown.Proofs.Output.OpenImage

/-!
This module contains the trace of a document: its events, each with what it adds to the output.
Where footnote definitions stand apart, the output outside of them and the definitions that are set
aside can be read off the trace.
-/

namespace DirectedMarkdown

open Markdown (Element Event Tag everywhere noteContents)

/-- What each event of a document adds to its output. -/
abbrev Trace : Type :=
  List (Event × List Output)

namespace Trace

/-- What is added outside of footnote definitions. -/
def outsideNotes (inNote : Bool) : Trace → List Output
  | [] => []
  | (event, written) :: rest =>
    match event with
    | .enter (.footnoteDefinition _) => outsideNotes true rest
    | .leave .footnoteDefinition => outsideNotes false rest
    | _ => (if inNote then [] else written) ++ outsideNotes inNote rest

/-- What is added before the end of the footnote definition that is being read. -/
def untilNoteEnd (trace : Trace) : List Output :=
  (trace.takeWhile fun entry => entry.1 ≠ .leave .footnoteDefinition).flatMap Prod.snd

/-- The footnote definitions, each with what is added from its start to its end. -/
def noteBodies (trace : Trace) : List (String × List Output) :=
  (noteContents Prod.fst trace).map fun note => (note.1, note.2.flatMap Prod.snd)

theorem outsideNotes_cons {event : Event} (henter : event.definedLabel? = none)
    (hleave : event ≠ .leave .footnoteDefinition) (inNote : Bool) (written : List Output)
    (rest : Trace)
    : outsideNotes inNote ((event, written) :: rest)
        = (if inNote then [] else written) ++ outsideNotes inNote rest := by
  rw [outsideNotes.eq_def]
  dsimp only
  split
  . simp [Event.definedLabel?] at henter
  . simp at hleave
  . rfl

theorem untilNoteEnd_cons {event : Event} (hleave : event ≠ .leave .footnoteDefinition)
    (written : List Output) (rest : Trace)
    : untilNoteEnd ((event, written) :: rest) = written ++ untilNoteEnd rest := by
  simp [untilNoteEnd, hleave]

theorem untilNoteEnd_leave (written : List Output) (rest : Trace)
    : untilNoteEnd ((.leave .footnoteDefinition, written) :: rest) = [] := by
  simp [untilNoteEnd]

theorem noteBodies_cons (event : Event) (written : List Output) (rest : Trace)
    : noteBodies ((event, written) :: rest)
        = match event.definedLabel? with
          | some label => (label, untilNoteEnd rest) :: noteBodies rest
          | none => noteBodies rest := by
  unfold noteBodies
  rw [noteContents]
  cases event.definedLabel? <;> rfl

end Trace

namespace Footnotes

/-- The definitions that were taken down, and the one that is being read. -/
def pages (footnotes : Footnotes) : List (String × List Output) :=
  footnotes.definitions ++ footnotes.current.toList.map fun page => (page.1, page.2.toList)

theorem lookup_close (footnotes : Footnotes) (label : String)
    : footnotes.close.definitions.lookup label = footnotes.pages.lookup label := by
  unfold close pages
  split
  . next h => simp [h]
  . next other body h =>
    simp only [h, Option.toList_some, List.map_cons, List.map_nil]
    split
    . next hsome =>
      rw [List.lookup_append]
      by_cases hlabel : label = other
      . rw [hlabel, Option.or_of_isSome hsome]
      . have : (label == other) = false := by simpa using hlabel
        simp [List.lookup_cons, this]
    . rfl

theorem pages_close_sublist (footnotes : Footnotes)
    : footnotes.close.pages.Sublist footnotes.pages := by
  unfold close
  split
  . exact List.Sublist.refl _
  . next label body hcurrent =>
    unfold pages
    rw [hcurrent]
    split <;> simp

end Footnotes

namespace Styling

def trace (style : Style) (state : Styling) : List Event → Trace
  | [] => []
  | event :: rest =>
    (event, emission style state event) :: trace style (step style state event) rest

theorem trace_append (style : Style) (state : Styling) (xs ys : List Event)
    : trace style state (xs ++ ys)
        = trace style state xs ++ trace style (xs.foldl (step style) state) ys := by
  induction xs generalizing state with
  | nil => rfl
  | cons x xs ih => simp [trace, ih]

theorem map_fst_trace (style : Style) (state : Styling) (events : List Event)
    : (trace style state events).map Prod.fst = events := by
  induction events generalizing state with
  | nil => rfl
  | cons event rest ih => simp [trace, ih]

theorem length_trace (style : Style) (state : Styling) (events : List Event)
    : (trace style state events).length = events.length := by
  rw [← List.length_map Prod.fst, map_fst_trace]

theorem trace_takeWhile (style : Style) (state : Styling) (events : List Event) (p : Event → Bool)
    : trace style state (events.takeWhile p)
        = (trace style state events).takeWhile fun entry => p entry.1 := by
  induction events generalizing state with
  | nil => rfl
  | cons event rest ih =>
    rw [List.takeWhile_cons, trace, List.takeWhile_cons]
    dsimp only
    split
    . rw [trace, ih]
    . rfl

/-- The state of a document whose definitions stand apart, where these parts are open. -/
structure Fits (outer : List Tag) (state : Styling) : Prop where
  images : state.openImages = outer.countP Tag.isImage
  reading : state.footnotes.current.isSome = outer.any Tag.isNote
  apart : outer.Pairwise fun inner tag => inner.isNote → !tag.isNote && !tag.isImage

theorem fits_start : Fits [] start where
  images := rfl
  reading := rfl
  apart := List.Pairwise.nil

/--
What an event does where definitions stand apart: a definition starts, the one that is being read
ends, or something is added to the output.
-/
inductive Turn (style : Style) (state : Styling) : Event → Prop where
  | starts (label : String)
    : state.footnotes.current = none
      → step style state (.enter (.footnoteDefinition label))
        = { state with footnotes := state.footnotes.open label }
      → Turn style state (.enter (.footnoteDefinition label))
  | ends (page : String × Array Output)
    : state.footnotes.current = some page
      → step style state (.leave .footnoteDefinition)
        = { state with footnotes := state.footnotes.close }
      → Turn style state (.leave .footnoteDefinition)
  | adds {event : Event}
    : event.definedLabel? = none → event ≠ .leave .footnoteDefinition
      → state.turnsPage event = false → Turn style state event

variable (style : Style) {outer : List Tag} {state : Styling} {event : Event}

theorem Fits.turn (fits : Fits outer state) (hcloses : event.closes outer)
    (hapart : event.standsApart outer) : Turn style state event := by
  by_cases henter : ∃ label, event = .enter (.footnoteDefinition label)
  . obtain ⟨label, rfl⟩ := henter
    have houter : ∀ tag ∈ outer, tag.isNote = false ∧ tag.isImage = false := by
      simpa [Event.standsApart] using hapart
    have himage : state.image = none := by
      apply image_eq_none_of_any fits.images
      simpa using fun tag htag => (houter tag htag).2
    have hcurrent : state.footnotes.current = none := by
      rw [← Option.not_isSome_iff_eq_none, fits.reading]
      simpa using fun tag htag => (houter tag htag).1
    exact .starts label hcurrent (step_enter_note style state label himage)
  . by_cases hleave : event = .leave .footnoteDefinition
    . subst hleave
      obtain ⟨tag, rest, rfl, helement⟩ := Event.opened_of_closes hcloses
      have hnote : tag.isNote := by simp [Tag.isNote_eq_element, helement]
      -- No image is open around a definition, and the innermost part is the definition itself.
      have hrest := (List.pairwise_cons.mp fits.apart).1
      have himage : state.image = none := by
        apply image_eq_none_of_any fits.images
        simp only [List.any_cons, Bool.or_eq_false_iff, List.any_eq_false]
        refine ⟨by simp [Tag.isImage_eq_element, helement], ?_⟩
        intro other hother
        have := hrest other hother hnote
        simp_all
      have hcurrent : state.footnotes.current.isSome := by
        rw [fits.reading]
        simp [hnote]
      obtain ⟨page, hpage⟩ := Option.isSome_iff_exists.mp hcurrent
      exact .ends page hpage (step_leave_note style state himage)
    . refine .adds ?_ hleave ?_
      . unfold Event.definedLabel?
        split
        . simp at henter
        . rfl
      . unfold turnsPage
        split
        . simp at henter
        . simp at hleave
        . rfl

theorem Fits.step (fits : Fits outer state) (hcloses : event.closes outer)
    (hapart : event.standsApart outer)
    : Fits (event.opened outer) (step style state event) where
  images := openImages_step fits.images hcloses
  reading := by
    cases fits.turn style hcloses hapart with
    | starts label _ hstep =>
      rw [hstep]
      simp [Footnotes.open, Event.opened, Tag.isNote]
    | ends page _ hstep =>
      obtain ⟨tag, rest, rfl, helement⟩ := Event.opened_of_closes hcloses
      have hnote : tag.isNote := by simp [Tag.isNote_eq_element, helement]
      rw [hstep]
      simp only [Footnotes.close_current, Option.isSome_none, Event.opened, List.tail_cons]
      -- Around the definition that ends there is no other one.
      symm
      rw [List.any_eq_false]
      intro other hother
      have := List.rel_of_pairwise_cons fits.apart hother hnote
      simp_all
    | adds henter hleave hturns =>
      have hcurrent : (Styling.step style state event).footnotes.current.isSome
          = state.footnotes.current.isSome := by
        cases hcurrent : state.footnotes.current with
        | none => simp [(step_of_current_none style state hturns hcurrent).2.1]
        | some page => simp [(step_of_current_some style state hturns hcurrent).2.1]
      rw [hcurrent, fits.reading]
      cases event with
      | enter tag => cases tag <;> simp_all [Event.opened, Event.definedLabel?, Tag.isNote]
      | leave element =>
        obtain ⟨tag, rest, rfl, helement⟩ := Event.opened_of_closes hcloses
        have hnote : tag.isNote = false := by
          rw [Tag.isNote_eq_element, helement]
          simpa using hleave
        simp [Event.opened, hnote]
      | _ => rfl
  apart := by
    cases event with
    | enter tag =>
      simp only [Event.opened, List.pairwise_cons]
      refine ⟨?_, fits.apart⟩
      intro other hother hnote
      cases tag <;> simp_all [Event.standsApart, Tag.isNote]
    | leave element => exact fits.apart.tail
    | _ => exact fits.apart

section Run

variable {events : List Event}

theorem Fits.output_foldl_step (fits : Fits outer state)
    (hcloses : everywhere Event.closes outer events)
    (hapart : everywhere Event.standsApart outer events)
    : (events.foldl (Styling.step style) state).output.toList
        = state.output.toList
          ++ Trace.outsideNotes state.footnotes.current.isSome (trace style state events) := by
  induction events generalizing outer state with
  | nil => simp [trace, Trace.outsideNotes]
  | cons event rest ih =>
    simp only [everywhere, Bool.and_eq_true] at hcloses hapart
    have ih := ih (fits.step style hcloses.1 hapart.1) hcloses.2 hapart.2
    rw [List.foldl_cons, ih, trace]
    cases fits.turn style hcloses.1 hapart.1 with
    | starts label _ hstep =>
      rw [hstep]
      rfl
    | ends page _ hstep =>
      rw [hstep]
      simp [Footnotes.close_current, Trace.outsideNotes]
    | adds henter hleave hturns =>
      rw [Trace.outsideNotes_cons henter hleave]
      cases hcurrent : state.footnotes.current with
      | none =>
        obtain ⟨houtput, hnext, _⟩ := step_of_current_none style state hturns hcurrent
        simp [houtput, hnext]
      | some page =>
        obtain ⟨houtput, hnext, _⟩ := step_of_current_some style state hturns hcurrent
        simp [houtput, hnext]

theorem Fits.lookup_pages_foldl_step (fits : Fits outer state)
    (hcloses : everywhere Event.closes outer events)
    (hapart : everywhere Event.standsApart outer events) (label : String)
    : (events.foldl (Styling.step style) state).footnotes.pages.lookup label
        = (state.footnotes.definitions
            ++ (state.footnotes.current.toList.map fun page =>
                (page.1, page.2.toList ++ Trace.untilNoteEnd (trace style state events)))
            ++ Trace.noteBodies (trace style state events)).lookup label := by
  induction events generalizing outer state with
  | nil =>
    simp [trace, Trace.untilNoteEnd, Trace.noteBodies, noteContents, Footnotes.pages]
  | cons event rest ih =>
    simp only [everywhere, Bool.and_eq_true] at hcloses hapart
    have ih := ih (fits.step style hcloses.1 hapart.1) hcloses.2 hapart.2
    rw [List.foldl_cons, ih, trace]
    cases fits.turn style hcloses.1 hapart.1 with
    | starts other hcurrent hstep =>
      rw [hstep, hcurrent]
      simp [Footnotes.open, Trace.noteBodies_cons, Event.definedLabel?]
    | ends page hcurrent hstep =>
      rw [hstep]
      have hlookup := Footnotes.lookup_close state.footnotes label
      simp only [Footnotes.pages, hcurrent, Option.toList_some, List.map_cons,
        List.map_nil] at hlookup
      simp only [Footnotes.close_current, hcurrent, Trace.noteBodies_cons, Trace.untilNoteEnd_leave,
        Event.definedLabel?, List.append_nil, Option.toList_none, Option.toList_some, List.map_nil,
        List.map_cons]
      rw [List.lookup_append, hlookup, ← List.lookup_append]
    | adds henter hleave hturns =>
      rw [Trace.noteBodies_cons, henter, Trace.untilNoteEnd_cons hleave]
      cases hcurrent : state.footnotes.current with
      | none =>
        obtain ⟨_, hnext, hdefinitions⟩ := step_of_current_none style state hturns hcurrent
        simp [hnext, hdefinitions]
      | some page =>
        obtain ⟨_, hnext, hdefinitions⟩ := step_of_current_some style state hturns hcurrent
        simp [hnext, hdefinitions]

/-- Everything is added either outside of definitions or to just one of them. -/
theorem Fits.perm_noteBodies (fits : Fits outer state)
    (hcloses : everywhere Event.closes outer events)
    (hapart : everywhere Event.standsApart outer events)
    : ((trace style state events).flatMap Prod.snd).Perm
        (Trace.outsideNotes state.footnotes.current.isSome (trace style state events)
          ++ (state.footnotes.current.toList.flatMap fun _ =>
              Trace.untilNoteEnd (trace style state events))
          ++ (Trace.noteBodies (trace style state events)).flatMap Prod.snd) := by
  induction events generalizing outer state with
  | nil =>
    cases state.footnotes.current <;>
      simp [trace, Trace.outsideNotes, Trace.untilNoteEnd, Trace.noteBodies, noteContents]
  | cons event rest ih =>
    simp only [everywhere, Bool.and_eq_true] at hcloses hapart
    have ih := ih (fits.step style hcloses.1 hapart.1) hcloses.2 hapart.2
    rw [trace, List.flatMap_cons]
    cases fits.turn style hcloses.1 hapart.1 with
    | starts label hcurrent hstep =>
      rw [hstep] at ih ⊢
      rw [emission_enter_note, hcurrent]
      simpa [Footnotes.open, Trace.outsideNotes, Trace.noteBodies_cons, Event.definedLabel?]
        using ih
    | ends page hcurrent hstep =>
      rw [hstep] at ih ⊢
      rw [emission_leave_note, hcurrent, Trace.untilNoteEnd_leave]
      simpa [Footnotes.close_current, Trace.outsideNotes, Trace.noteBodies_cons,
        Event.definedLabel?] using ih
    | adds henter hleave hturns =>
      rw [Trace.outsideNotes_cons henter hleave, Trace.noteBodies_cons, henter]
      rw [Trace.untilNoteEnd_cons hleave]
      cases hcurrent : state.footnotes.current with
      | none =>
        have hnext := (step_of_current_none style state hturns hcurrent).2.1
        rw [hnext] at ih
        simpa using ih.append_left _
      | some page =>
        have hnext := (step_of_current_some style state hturns hcurrent).2.1
        rw [hnext] at ih
        simp only [Option.toList_some, List.flatMap_singleton] at ih ⊢
        refine (ih.append_left _).trans ?_
        simp only [Option.isSome_some, if_true, List.append_assoc]
        apply List.perm_append_comm_assoc

end Run

end Styling

end DirectedMarkdown
