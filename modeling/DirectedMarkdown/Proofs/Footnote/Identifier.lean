import DirectedMarkdown.Proofs.Footnote.Occurrence
import DirectedMarkdown.Proofs.Output.Record

/-!
This module contains the identifiers in an output: those of the references and those of the notes.
If the templates have a placeholder for the label, and the number of a reference is set off from it,
no two references and no two notes are identified alike, whatever their labels are.
-/

namespace DirectedMarkdown

open Html (Attribute)
open Markdown (Event Tag WellNested references)

namespace DirectiveSet

/-- The text of the `id` attribute of a note. -/
def noteIdText (directives : DirectiveSet) (label : String) : String :=
  Attribute.written { name := "id", value := directives.noteId label }

theorem noteIdText_injective {directives : DirectiveSet}
    (h : ['%', 's'] <:+: directives.footnoteLinkId.toList)
    : Function.Injective directives.noteIdText := by
  intro label other htext
  exact Template.fill_injective h (Html.escape_injective htext)

/-- With the default templates, the third character tells a reference from a note. -/
theorem referenceIdText_ne_noteIdText {directives : DirectiveSet}
    (hreference : directives.footnoteBacklinkId = initial.footnoteBacklinkId)
    (hnote : directives.footnoteLinkId = initial.footnoteLinkId)
    (reference : String × Nat) (label : String)
    : directives.referenceIdText reference ≠ directives.noteIdText label := by
  have hreferenceCuts : Template.Cuts directives.footnoteBacklinkId.toList "fnref".toList
      [':', '%', 's'] := by
    rw [hreference]
    exact ⟨by decide, by decide⟩
  have hnoteCuts : Template.Cuts directives.footnoteLinkId.toList "fn:".toList [] := by
    rw [hnote]
    exact ⟨by decide, by decide⟩
  intro htext
  have hchars := congrArg String.toList (Html.escape_injective htext)
  dsimp only at hchars
  rw [DirectiveSet.referenceId, Template.toList_fill_cons hreferenceCuts] at hchars
  rw [DirectiveSet.noteId, Template.toList_fill_cons hnoteCuts] at hchars
  simp at hchars

end DirectiveSet

namespace Output

/-- The identifiers of the notes in an output. -/
def noteIds (output : List Output) : List String :=
  attributeTexts "li" "id" output

end Output

namespace Footnotes

theorem flatMap_notes {α : Type} (footnotes : Footnotes) (f : List Output → List α)
    : footnotes.close.notes.flatMap (fun note => f note.body)
        = firstPages (footnotes.referenced.map Prod.fst)
            (footnotes.pages.map fun page => (page.1, f page.2)) := by
  unfold notes firstPages
  rw [close_referenced, List.flatMap_map]
  induction footnotes.referenced with
  | nil => rfl
  | cons entry rest ih =>
    rw [List.flatMap_cons, ← ih, List.filterMap_cons]
    dsimp only
    rw [lookup_close, lookup_map_snd]
    cases footnotes.pages.lookup entry.1 <;> rfl

theorem map_label_notes_sublist (footnotes : Footnotes)
    : (footnotes.notes.map Note.label).Sublist (footnotes.referenced.map Prod.fst) := by
  unfold notes
  induction footnotes.referenced with
  | nil => simp
  | cons entry rest ih =>
    rw [List.filterMap_cons, List.map_cons]
    dsimp only
    cases footnotes.definitions.lookup entry.1 with
    | none => exact ih.cons _
    | some body => exact ih.cons_cons _

end Footnotes

namespace Note

variable (directives : DirectiveSet)

theorem attributeTexts_backlinks {element : String} (h : element ≠ "a") (name label : String)
    (count : Nat)
    : Output.attributeTexts element name [.written (directives.backlinks label count)] = [] := by
  apply Output.attributeTexts_eq_nil
  rw [List.flatMap_singleton, directives.sides_backlinks]
  simpa [Side.pair] using fun _ _ => h

theorem attributeTexts_item {element : String} (h : element ≠ "a") (name : String) (note : Note)
    : Output.attributeTexts element name (note.item directives)
        = Output.attributeTexts element name ((note.item directives).take 1)
          ++ Output.attributeTexts element name note.body := by
  obtain ⟨front, back, hparted, hitem⟩ := note.item_eq directives
  have hend : Output.attributeTexts element name [.written [.endTag "li", .lineFeed]] = [] := by rfl
  rw [hitem, hparted.eq_append, Output.attributeTexts_append, hend, List.append_nil]
  rw [List.cons_append, List.cons_append, List.take_succ_cons, List.take_zero]
  rw [Output.attributeTexts_cons, Output.attributeTexts_append, Output.attributeTexts_append]
  rw [Output.attributeTexts_cons _ _ (.written (directives.backlinks _ _))]
  rw [attributeTexts_backlinks directives h, List.nil_append]

theorem attributeTexts_list {element : String} (h : element ∉ ["div", "ol"]) (name : String)
    (notes : List Note)
    : Output.attributeTexts element name (list directives notes)
        = notes.flatMap fun note =>
            Output.attributeTexts element name (note.item directives) := by
  have hstart : Output.attributeTexts element name
      [.written [.startTag "div" (Attribute.ofClass directives.footnoteClass), .lineFeed,
        .voidTag "hr" [] directives.elementClosingStyle, .lineFeed, .startTag "ol" [],
        .lineFeed]] = [] := by
    apply Output.attributeTexts_eq_nil
    change _ ∉ [Side.opens (.element "div"), .opens (.element "ol")]
    simpa using h
  have hend : Output.attributeTexts element name
      [.written [.endTag "ol", .lineFeed, .endTag "div", .lineFeed]] = [] := by rfl
  unfold list
  split
  . next hempty =>
    rw [List.isEmpty_iff.mp hempty]
    rfl
  . rw [Output.attributeTexts_append, Output.attributeTexts_cons]
    rw [hstart, hend, List.append_nil, List.nil_append]
    apply List.flatMap_assoc

theorem referenceIds_list (notes : List Note)
    : Output.referenceIds (list directives notes)
        = notes.flatMap fun note => Output.referenceIds note.body := by
  unfold Output.referenceIds
  rw [attributeTexts_list directives (by decide)]
  congr 1
  funext note
  rw [attributeTexts_item directives (by decide)]
  obtain ⟨front, back, _, hitem⟩ := note.item_eq directives
  rw [hitem]
  rfl

/-- A list of notes has the items of its notes and no others. -/
theorem noteIds_list {notes : List Note}
    (h : ∀ note ∈ notes, ∀ step ∈ note.body, .opens (.element "li") ∉ step.sides)
    : Output.noteIds (list directives notes)
        = notes.map fun note => directives.noteIdText note.label := by
  unfold Output.noteIds
  rw [attributeTexts_list directives (by decide)]
  rw [List.map_eq_flatMap, List.flatMap_congr]
  intro note hnote
  rw [attributeTexts_item directives (by decide), note.ids_item]
  rw [Output.attributeTexts_eq_nil, List.append_nil]
  . rfl
  . simpa using h note hnote

end Note

namespace Style

variable (style : Style) {events : List Event}

theorem nodup_referenced (hnested : WellNested events)
    : ((events.foldl (Styling.step style) .start).footnotes.referenced.map Prod.fst).Nodup := by
  rw [Styling.tally_foldl_step [] rfl (hnested.everywhere_closes []) rfl, Footnotes.tally]
  rw [List.map_map]
  exact (List.map_id _).symm ▸ nodup_eraseDups _

theorem nodup_map_label_notes (hnested : WellNested events)
    : ((style.notes events).map Note.label).Nodup := by
  have hreferenced := style.nodup_referenced hnested
  rw [← Footnotes.close_referenced] at hreferenced
  exact hreferenced.sublist (Footnotes.map_label_notes_sublist _)

/-- Every reference is identified by its label and its number, on whatever page it stands. -/
theorem referenceIds_record_subperm (hnested : WellNested events)
    : (Output.referenceIds (events.foldl (Styling.step style) .start).record).Subperm
        ((Footnotes.numberedAfter [] (references events)).map
          style.directives.referenceIdText) := by
  have hids : Output.referenceIds ((Styling.trace style .start events).flatMap Prod.snd)
      = (Footnotes.numberedAfter [] (references events)).map style.directives.referenceIdText :=
    Styling.referenceIds_trace rfl (hnested.everywhere_closes []) rfl
  obtain ⟨steps, hperm, hsublist⟩ := Styling.record_foldl_step_subperm style .start events
  rw [← hids]
  exact ⟨_, hperm.flatMap_right _, hsublist.flatMap _⟩

theorem referenceIds_record (state : Styling)
    : Output.referenceIds state.record
        = Output.referenceIds state.output.toList
          ++ (state.footnotes.pages.map fun page =>
              (page.1, Output.referenceIds page.2)).flatMap Prod.snd := by
  unfold Styling.record
  rw [Output.referenceIds_append, Output.referenceIds_flatMap, List.flatMap_map]

theorem referenceIds_finish (state : Styling)
    : Output.referenceIds (state.finish style)
        = Output.referenceIds state.output.toList
          ++ Footnotes.firstPages (state.footnotes.referenced.map Prod.fst)
            (state.footnotes.pages.map fun page => (page.1, Output.referenceIds page.2)) := by
  unfold Styling.finish
  rw [Output.referenceIds_append, Note.referenceIds_list, Footnotes.flatMap_notes]

theorem nodup_referenceIds_apply (hnested : WellNested events)
    (htemplate : Template.SetsNumberOff style.directives.footnoteBacklinkId)
    : (Output.referenceIds (style.apply events)).Nodup := by
  unfold apply
  rw [referenceIds_finish]
  apply Footnotes.nodup_append_firstPages (style.nodup_referenced hnested)
  rw [← referenceIds_record]
  have hnodup := (Footnotes.nodup_numberedAfter [] (references events)).map
    (DirectiveSet.referenceIdText_injective htemplate)
  obtain ⟨ids, hperm, hsublist⟩ := style.referenceIds_record_subperm hnested
  exact hperm.nodup_iff.mp (hnodup.sublist hsublist)

theorem exists_reference_of_mem_referenceIds (hnested : WellNested events) {id : String}
    (hid : id ∈ Output.referenceIds (style.apply events))
    : ∃ reference, id = style.directives.referenceIdText reference := by
  unfold apply at hid
  rw [referenceIds_finish, List.mem_append] at hid
  have hrecord : id ∈ Output.referenceIds (events.foldl (Styling.step style) .start).record := by
    rw [referenceIds_record, List.mem_append]
    exact hid.imp_right Footnotes.mem_flatMap_of_mem_firstPages
  have hmet := (style.referenceIds_record_subperm hnested).subset hrecord
  obtain ⟨reference, _, hreference⟩ := List.mem_map.mp hmet
  exact ⟨reference, hreference.symm⟩

theorem noteIds_apply (events : List Event)
    : Output.noteIds (style.apply events)
        = ((style.notes events).map Note.label).map style.directives.noteIdText := by
  have hno : ∀ event : Event, "li" ∉ event.openable := by
    intro event
    cases event with
    | enter tag => cases tag <;> simp [Event.openable]
    | leave element => cases element <;> simp [Event.openable]
    | _ => simp [Event.openable]
  have hholds : Styling.Holds (fun step => .opens (.element "li") ∉ step.sides)
      (events.foldl (Styling.step style) .start) := by
    apply Styling.holds_of_emission
    intro state event step hstep hopens
    apply hno event
    apply Styling.mem_openable_of_emission style state
    rw [List.mem_flatMap]
    exact ⟨step, hstep, hopens⟩
  unfold apply Styling.finish Output.noteIds
  rw [Output.attributeTexts_append, Output.attributeTexts_eq_nil, List.map_map]
  . exact Note.noteIds_list style.directives hholds.notes
  . simpa using hholds.output

end Style

/--
No two references and no two notes in an output are identified alike, if the template for notes has
a placeholder for the label, and the one for references has one for the number and one for the label
with something between them that the number does not go on with. With the default templates, no
reference is identified as a note is.
-/
theorem identifiers_distinct (style : Style) {events : List Event} (hnested : WellNested events)
    (hnote : ['%', 's'] <:+: style.directives.footnoteLinkId.toList)
    (hreference : Template.SetsNumberOff style.directives.footnoteBacklinkId)
    : (Output.referenceIds (style.apply events)).Nodup
        ∧ (Output.noteIds (style.apply events)).Nodup
        ∧ (style.directives.footnoteLinkId = DirectiveSet.initial.footnoteLinkId →
            style.directives.footnoteBacklinkId = DirectiveSet.initial.footnoteBacklinkId →
            (Output.referenceIds (style.apply events)).Disjoint
              (Output.noteIds (style.apply events))) := by
  rw [style.noteIds_apply]
  refine ⟨style.nodup_referenceIds_apply hnested hreference, ?_, ?_⟩
  . exact (style.nodup_map_label_notes hnested).map (DirectiveSet.noteIdText_injective hnote)
  . intro hlinkId hbacklinkId id hid hother
    obtain ⟨reference, rfl⟩ := style.exists_reference_of_mem_referenceIds hnested hid
    obtain ⟨label, _, heq⟩ := List.mem_map.mp hother
    exact DirectiveSet.referenceIdText_ne_noteIdText hbacklinkId hlinkId reference _ heq.symm

/-- Labels that look like the text between the placeholders, or like a placeholder. -/
theorem identifiers_distinct_colons
    : let directives : DirectiveSet :=
        { DirectiveSet.initial with footnoteLinkId := "%s%s:", footnoteBacklinkId := "%s:%s" }
      let style : Style := { Style.initial with directives }
      let events : List Event :=
        [.enter .paragraph, .footnoteReference "1:&", .footnoteReference "&",
          .footnoteReference "1:&", .footnoteReference "%s", .leave .paragraph,
          .enter (.footnoteDefinition "&"), .text "a", .leave .footnoteDefinition,
          .enter (.footnoteDefinition "1:&"), .footnoteReference "&", .leave .footnoteDefinition]
      (WellNested events ∧ ['%', 's'] <:+: directives.footnoteLinkId.toList
          ∧ Template.SetsNumberOff directives.footnoteBacklinkId)
        ∧ Output.referenceIds (style.apply events)
          = ["1:1:&amp;", "1:&amp;", "2:1:&amp;", "1:%s", "2:&amp;"]
        ∧ Output.noteIds (style.apply events) = ["1:&amp;:", "&amp;:"]
        ∧ (Output.referenceIds (style.apply events)).Nodup
        ∧ (Output.noteIds (style.apply events)).Nodup := by
  intro directives style events
  have hnested : WellNested events := by
    apply @WellNested.part .paragraph
      [.footnoteReference "1:&", .footnoteReference "&", .footnoteReference "1:&",
        .footnoteReference "%s"]
    . exact .content rfl (.content rfl (.content rfl (.content rfl .nil)))
    . apply @WellNested.part (.footnoteDefinition "&") [.text "a"]
      . exact .content rfl .nil
      . apply @WellNested.part (.footnoteDefinition "1:&") [.footnoteReference "&"]
        . exact .content rfl .nil
        . exact .nil
  have hnote : ['%', 's'] <:+: directives.footnoteLinkId.toList := by decide
  have hreference : Template.SetsNumberOff directives.footnoteBacklinkId :=
    ⟨[], ':', [], [], by decide, by decide, by decide, by decide⟩
  obtain ⟨hreferences, hnotes, _⟩ := identifiers_distinct style hnested hnote hreference
  exact ⟨⟨hnested, hnote, hreference⟩, by decide +kernel, by decide +kernel, hreferences, hnotes⟩

end DirectedMarkdown
