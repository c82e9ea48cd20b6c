import DirectedMarkdown.Proofs.Footnote.Assembly
import DirectedMarkdown.Proofs.Output.EmissionSide
import DirectedMarkdown.Proofs.Template

/-!
This module contains the identifiers of references: each reference of a document is the first,
second, and so on to its label, and no two of them are identified alike if the template sets the
number off.
-/

namespace DirectedMarkdown

open Html (Attribute)
open Markdown (Element Event Tag everywhere referencesIn references)

namespace Footnotes

/-- References that follow on `earlier` ones, each with its number among all to its label. -/
def numberedAfter (earlier : List String) : List String → List (String × Nat)
  | [] => []
  | label :: rest =>
    (label, earlier.count label + 1) :: numberedAfter (earlier ++ [label]) rest

theorem mem_numberedAfter_iff {earlier references : List String} {label : String} {n : Nat}
    : (label, n) ∈ numberedAfter earlier references
        ↔ earlier.count label < n ∧ n ≤ earlier.count label + references.count label := by
  induction references generalizing earlier with
  | nil =>
    simp only [numberedAfter, List.not_mem_nil, List.count_nil, false_iff]
    omega
  | cons first rest ih =>
    simp only [numberedAfter, List.mem_cons, Prod.mk.injEq]
    rw [ih]
    by_cases h : label = first
    . subst h
      simp only [List.count_append, List.count_cons_self, List.count_nil, true_and]
      omega
    . have hne : ¬first = label := fun heq => h heq.symm
      simp [List.count_append, h, hne]

theorem nodup_numberedAfter (earlier references : List String)
    : (numberedAfter earlier references).Nodup := by
  induction references generalizing earlier with
  | nil => simp [numberedAfter]
  | cons first rest ih =>
    rw [numberedAfter, List.nodup_cons]
    refine ⟨?_, ih _⟩
    rw [mem_numberedAfter_iff]
    simp

theorem numberedAfter_append (earlier xs ys : List String)
    : numberedAfter earlier (xs ++ ys)
        = numberedAfter earlier xs ++ numberedAfter (earlier ++ xs) ys := by
  induction xs generalizing earlier with
  | nil => simp [numberedAfter]
  | cons x xs ih => simp [numberedAfter, ih]

theorem numberedAfter_eq_nil_iff {earlier references : List String}
    : numberedAfter earlier references = [] ↔ references = [] := by
  cases references <;> simp [numberedAfter]

end Footnotes

namespace DirectiveSet

/-- The text of the `id` attribute of a reference. -/
def referenceIdText (directives : DirectiveSet) (reference : String × Nat) : String :=
  Attribute.written
    { name := "id", value := directives.referenceId reference.2 reference.1 }

theorem setsNumberOff_initial : Template.SetsNumberOff initial.footnoteBacklinkId :=
  ⟨"fnref".toList, ':', [], [], by decide, by decide, by decide, by decide⟩

theorem referenceIdText_injective {directives : DirectiveSet}
    (h : Template.SetsNumberOff directives.footnoteBacklinkId)
    : Function.Injective directives.referenceIdText := by
  intro a b htext
  have hid := Template.fill_number_injective h (Html.escape_injective htext)
  exact Prod.ext hid.2 hid.1

end DirectiveSet

namespace Output

/-- The identifiers of the references in an output. -/
def referenceIds (output : List Output) : List String :=
  attributeTexts "sup" "id" output

theorem referenceIds_append (xs ys : List Output)
    : referenceIds (xs ++ ys) = referenceIds xs ++ referenceIds ys := by
  apply attributeTexts_append

theorem referenceIds_flatMap {α : Type} (entries : List α) (f : α → List Output)
    : referenceIds (entries.flatMap f) = entries.flatMap fun entry => referenceIds (f entry) := by
  apply List.flatMap_assoc

end Output

namespace Styling

variable {style : Style} {state : Styling} {outer : List Tag}

theorem referenceIds_noteReference (directives : DirectiveSet) (label : String)
    (number occurrence : Nat)
    : Output.referenceIds [.written (directives.noteReference label number occurrence)]
        = [directives.referenceIdText (label, occurrence)] := by
  rfl

theorem referenceIds_emission {event : Event} {earlier : List String}
    (himages : state.openImages = outer.countP Tag.isImage)
    (htally : state.footnotes.referenced = Footnotes.tally earlier)
    : Output.referenceIds (emission style state event)
        = (event.referredLabel? outer).toList.map fun label =>
            style.directives.referenceIdText (label, earlier.count label + 1) := by
  cases hreferred : event.referredLabel? outer with
  | some label =>
    rw [Event.referredLabel?_eq_some_iff] at hreferred
    obtain ⟨rfl, houtside⟩ := hreferred
    rw [emission_reference style label (image_eq_none_of_any himages houtside) htally]
    rw [referenceIds_noteReference]
    rfl
  | none =>
    apply Output.attributeTexts_eq_nil
    cases himage : state.image with
    | some image =>
      rw [sides_emission_of_image_some style state himage]
      simp
    | none =>
      rw [sides_emission_of_image_none style state himage]
      intro hopens
      have hsup := mem_openable_of_visitSides style state hopens
      -- Of all events, only references open this element.
      obtain ⟨label, rfl⟩ : ∃ label, event = .footnoteReference label := by
        cases event with
        | footnoteReference label => exact ⟨label, rfl⟩
        | enter tag => cases tag <;> simp [Event.openable] at hsup
        | leave element => cases element <;> simp [Event.openable] at hsup
        | _ => simp [Event.openable] at hsup
      have hcount : outer.countP Tag.isImage = 0 := by
        rw [← himages, openImages_eq_zero_iff]
        exact himage
      have houtside : outer.any Tag.isImage = false := by
        simpa using hcount
      simp [Event.referredLabel?, houtside] at hreferred

/-- Each reference outside of images is identified by its label and its number among all to it. -/
theorem referenceIds_trace {events : List Event} {earlier : List String}
    (himages : state.openImages = outer.countP Tag.isImage)
    (hcloses : everywhere Event.closes outer events)
    (htally : state.footnotes.referenced = Footnotes.tally earlier)
    : Output.referenceIds ((trace style state events).flatMap Prod.snd)
        = (Footnotes.numberedAfter earlier (referencesIn outer events)).map
            style.directives.referenceIdText := by
  induction events generalizing outer state earlier with
  | nil => rfl
  | cons event rest ih =>
    simp only [everywhere, Bool.and_eq_true] at hcloses
    rw [trace, List.flatMap_cons, Output.referenceIds_append, referencesIn]
    rw [Footnotes.numberedAfter_append, List.map_append, referenceIds_emission himages htally]
    rw [ih (openImages_step himages hcloses.1) hcloses.2 (tally_step himages htally)]
    cases event.referredLabel? outer <;> rfl

end Styling

end DirectedMarkdown
