import DirectedMarkdown.Proofs.Footnote.FirstPage
import DirectedMarkdown.Proofs.Output.Trace
import Mathlib.Data.List.Flatten
import Mathlib.Data.List.Perm.Subperm

/-!
This module contains the record of a document: all that has been written, on whatever page it stands.
A step adds to the record what its event adds to the output. Something may get lost, where a
definition is given up or passed over, but nothing is written down twice.
-/

namespace DirectedMarkdown

open Markdown (Event)

/-- The body of a note is a page. -/
theorem Footnotes.exists_page_of_mem_notes {footnotes : Footnotes} {note : Note}
    (h : note ∈ footnotes.close.notes) : ∃ label, (label, note.body) ∈ footnotes.pages := by
  unfold notes at h
  rw [List.mem_filterMap] at h
  obtain ⟨⟨label, count⟩, _, hnote⟩ := h
  rw [Option.map_eq_some_iff] at hnote
  obtain ⟨body, hbody, rfl⟩ := hnote
  rw [lookup_close] at hbody
  exact ⟨label, mem_of_lookup_eq_some hbody⟩

namespace Styling

/-- All that has been written, outside of footnote definitions and in them. -/
def record (state : Styling) : List Output :=
  state.output.toList ++ state.footnotes.pages.flatMap Prod.snd

variable (style : Style) (state : Styling)

theorem record_step_of_turnsPage {event : Event} (h : state.turnsPage event)
    : (step style state event).record.Sublist state.record := by
  unfold turnsPage at h
  split at h
  . next label =>
    rw [step_enter_note style state label (by simpa using h)]
    apply List.Sublist.append_left
    simp [Footnotes.pages, Footnotes.open]
  . rw [step_leave_note style state (by simpa using h)]
    apply List.Sublist.append_left
    exact (Footnotes.pages_close_sublist state.footnotes).flatMap _
  . simp at h

theorem record_step_subperm (event : Event)
    : (step style state event).record.Subperm (state.record ++ emission style state event) := by
  by_cases hturns : state.turnsPage event
  . have hsublist := record_step_of_turnsPage style state hturns
    exact (hsublist.trans (List.sublist_append_left _ _)).subperm
  have hturns : state.turnsPage event = false := by simpa using hturns
  apply List.Perm.subperm
  unfold record Footnotes.pages
  cases hcurrent : state.footnotes.current with
  | none =>
    obtain ⟨houtput, hnext, hdefinitions⟩ := step_of_current_none style state hturns hcurrent
    rw [houtput, hnext, hdefinitions]
    simpa using List.perm_append_comm.append_left _
  | some page =>
    obtain ⟨houtput, hnext, hdefinitions⟩ := step_of_current_some style state hturns hcurrent
    rw [houtput, hnext, hdefinitions]
    simp

theorem record_foldl_step_subperm (events : List Event)
    : (events.foldl (step style) state).record.Subperm
        (state.record ++ (trace style state events).flatMap Prod.snd) := by
  induction events generalizing state with
  | nil => simpa [trace] using List.Subperm.refl state.record
  | cons event rest ih =>
    have hstep := record_step_subperm style state event
    rw [List.foldl_cons, trace, List.flatMap_cons, ← List.append_assoc]
    exact (ih _).trans (hstep.append (List.Subperm.refl _))

/-- All that has been written has the property, outside of footnote definitions and in them. -/
structure Holds (p : Output → Prop) (state : Styling) : Prop where
  output : ∀ step ∈ state.output.toList, p step
  pages : ∀ page ∈ state.footnotes.pages, ∀ step ∈ page.2, p step

section Holds

variable {style state} {event : Event} {p : Output → Prop}

theorem holds_start : Holds p start :=
  ⟨by simp [start], by simp [start, Footnotes.empty, Footnotes.pages]⟩

theorem holds_iff : Holds p state ↔ ∀ step ∈ state.record, p step := by
  unfold record
  rw [List.forall_mem_append, List.forall_mem_flatMap]
  exact ⟨fun h => ⟨h.output, h.pages⟩, fun h => ⟨h.1, h.2⟩⟩

theorem Holds.step (h : Holds p state) (hemission : ∀ step ∈ emission style state event, p step)
    : Holds p (Styling.step style state event) := by
  rw [holds_iff] at h ⊢
  intro written hwritten
  cases List.mem_append.mp ((record_step_subperm style state event).subset hwritten) with
  | inl hrecord => exact h written hrecord
  | inr hnew => exact hemission written hnew

theorem Holds.notes (h : Holds p state)
    : ∀ note ∈ state.footnotes.close.notes, ∀ step ∈ note.body, p step := by
  intro note hnote
  obtain ⟨label, hpage⟩ := Footnotes.exists_page_of_mem_notes hnote
  exact h.pages _ hpage

/-- What holds of all that events can add holds of all that has been written. -/
theorem holds_of_emission
    (hemission : ∀ (state : Styling) (event : Event), ∀ step ∈ emission style state event, p step)
    (events : List Event) : Holds p (events.foldl (Styling.step style) start) := by
  suffices ∀ state, Holds p state → Holds p (events.foldl (Styling.step style) state) from
    this start holds_start
  intro state h
  induction events generalizing state with
  | nil => exact h
  | cons event rest ih => exact ih _ (h.step (hemission state event))

end Holds

end Styling

end DirectedMarkdown
