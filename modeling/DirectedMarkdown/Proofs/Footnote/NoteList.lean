import DirectedMarkdown.Proofs.Footnote.Identifier

/-!
This module contains the list of notes at the end of a document. It has one item for each label that
is referred to, in the order of the first references, each item holds the first definition of its
label with the links back put into it, and all references show the number of their item and lead to
it.
-/

namespace DirectedMarkdown

open Html (Attribute)
open Markdown (Event NotesApart RefersAt ReferencesDefined WellNested mem_references_iff references)

/-- The text for the number of a note: its digits, or a template that is filled with them. -/
inductive DirectiveSet.ShowsNumber (directives : DirectiveSet) (number : Nat) : String → Prop where
  | digits : directives.footnoteLinkText = none → ShowsNumber directives number (toString number)
  | filled {template shown : String}
    : directives.footnoteLinkText = some template →
      Template.Fills template.toList [toString number] shown.toList →
      ShowsNumber directives number shown

namespace Note

/-- The items of notes: each is the body of its note, with links back to all references in it. -/
inductive Items (directives : DirectiveSet) : List Note → List Output → Prop where
  | nil : Items directives [] []
  | cons {note : Note} {rest : List Note} {front back items : List Output}
    : Parted note.body front back → Items directives rest items →
      Items directives (note :: rest)
        (.written
            [.startTag "li"
              [{ name := "id", value := Template.fill directives.footnoteLinkId [note.label] }],
              .lineFeed]
          :: front
          ++ .written ((List.range note.count).flatMap fun i =>
              [.verbatim "&#160;",
                .startTag "a"
                  ({ name := "href"
                     value := "#" ++ Template.fill directives.footnoteBacklinkId
                      [toString (i + 1), note.label] }
                    :: { name := "rev", value := "footnote" }
                    :: Attribute.ofClass directives.footnoteBacklinkClass),
                .verbatim directives.footnoteBacklinkText,
                .endTag "a"])
          :: back
          ++ .written [.endTag "li", .lineFeed]
          :: items)

/-- The list at the end of a document. Without notes there is none. -/
inductive Listed (directives : DirectiveSet) : List Note → List Output → Prop where
  | nil : Listed directives [] []
  | cons {note : Note} {rest : List Note} {items : List Output}
    : Items directives (note :: rest) items →
      Listed directives (note :: rest)
        (.written
            [.startTag "div" (Attribute.ofClass directives.footnoteClass), .lineFeed,
              .voidTag "hr" [] directives.elementClosingStyle, .lineFeed,
              .startTag "ol" [], .lineFeed]
          :: items
          ++ [.written [.endTag "ol", .lineFeed, .endTag "div", .lineFeed]])

theorem items_flatMap (directives : DirectiveSet) (notes : List Note)
    : Items directives notes (notes.flatMap (item directives)) := by
  induction notes with
  | nil => exact .nil
  | cons note rest ih =>
    obtain ⟨front, back, hparted, hitem⟩ := note.item_eq directives
    have hitems := Items.cons hparted ih
    rw [List.flatMap_cons, hitem, List.append_assoc, List.singleton_append]
    exact hitems

theorem listed_list (directives : DirectiveSet) (notes : List Note)
    : Listed directives notes (list directives notes) := by
  cases notes with
  | nil => exact .nil
  | cons note rest => exact .cons (items_flatMap directives (note :: rest))

end Note

theorem DirectiveSet.showsNumber_referenceText (directives : DirectiveSet) (number : Nat)
    : directives.ShowsNumber number (directives.referenceText number) := by
  unfold referenceText
  split
  . next template htemplate => exact .filled htemplate (Template.fills_fill template _)
  . next hnone => exact .digits hnone

/--
The footnotes of a document are consistent with its list of notes. `Styling.trace` is what each event
adds to the output.
-/
structure NotesAssembled (style : Style) (events : List Event) (notes : List Note) : Prop where
  /-- Nothing of a definition is written outside of the list. -/
  output : ∃ list, style.apply events
      = Trace.outsideNotes false (Styling.trace style .start events) ++ list
    ∧ Note.Listed style.directives notes list
  /-- There is one note for each label that is referred to, in the order of first references. -/
  labels : notes.map Note.label = (references events).eraseDups
  nodup : (notes.map Note.label).Nodup
  count : ∀ note ∈ notes, note.count = (references events).count note.label
  /-- The first definition of a label counts. -/
  body : ∀ note ∈ notes,
    (Trace.noteBodies (Styling.trace style .start events)).lookup note.label = some note.body
  /-- A reference shows the number of its item and leads to it. -/
  reference : ∀ before label, RefersAt events before label →
    ∃ index note id shown step, notes[index]? = some note ∧ note.label = label
      ∧ (Output.noteIds (style.apply events))[index]? = some id
      ∧ Output.attributeTexts "a" "href" [step] = ["#" ++ id]
      ∧ style.directives.ShowsNumber (index + 1) shown
      ∧ step = .written
          [.startTag "sup"
              [{ name := "id"
                 value := Template.fill style.directives.footnoteBacklinkId
                  [toString ((references before).count label + 1), label] }],
            .startTag "a"
              ({ name := "href"
                 value := "#" ++ Template.fill style.directives.footnoteLinkId [label] }
                :: Attribute.ofClass style.directives.footnoteLinkClass),
            .verbatim shown, .endTag "a", .endTag "sup"]
      ∧ (Styling.trace style .start events)[before.length]?
          = some (.footnoteReference label, [step])

section

variable (style : Style) {events : List Event}

theorem notes_assembled (hnested : WellNested events) (hapart : NotesApart events)
    (hdefined : ReferencesDefined events)
    : NotesAssembled style events (style.notes events) := by
  have hnotes := style.notes_eq_map hnested hapart hdefined
  have hlabels : (style.notes events).map Note.label = (references events).eraseDups := by
    rw [hnotes, List.map_map]
    apply List.map_id''
    intro label
    rfl
  refine ⟨?_, hlabels, ?_, ?_, ?_, ?_⟩
  . exact ⟨_, style.apply_eq_append_list hnested hapart, Note.listed_list _ _⟩
  . rw [hlabels]
    apply nodup_eraseDups
  . intro note hnote
    rw [hnotes, List.mem_map] at hnote
    obtain ⟨label, _, rfl⟩ := hnote
    rfl
  . intro note hnote
    rw [hnotes, List.mem_map] at hnote
    obtain ⟨label, hlabel, rfl⟩ := hnote
    have hreferred := List.mem_eraseDups.mp hlabel
    obtain ⟨body, hbody⟩ := style.lookup_noteBodies_of_mem (hdefined.mem_definedLabels hreferred)
    simp [hbody]
  . intro before label hrefers
    have hmem : label ∈ (references events).eraseDups :=
      List.mem_eraseDups.mpr (mem_references_iff.mpr ⟨before, hrefers⟩)
    -- The item stands where the label stands among the labels that are referred to.
    obtain ⟨note, hnote, hlabel⟩ : ∃ note,
        (style.notes events)[(references events).eraseDups.idxOf label]? = some note
          ∧ note.label = label := by
      rw [← Option.map_eq_some_iff, ← List.getElem?_map, hlabels]
      rw [List.getElem?_eq_getElem (List.idxOf_lt_length_of_mem hmem), List.getElem_idxOf]
    refine ⟨_, note, style.directives.noteIdText label, _, _, hnote, hlabel, ?_, ?_,
      style.directives.showsNumber_referenceText _, rfl, style.trace_of_refersAt hnested hrefers⟩
    . rw [style.noteIds_apply, List.map_map, List.getElem?_map, hnote, Option.map_some]
      rw [Function.comp_apply, hlabel]
    . have hhrefs := style.directives.hrefs_noteReference label
        ((references events).eraseDups.idxOf label + 1) ((references before).count label + 1)
      rw [Attribute.written_hash "href" "id"] at hhrefs
      exact hhrefs

end

/-- The notes refer to each other, and one label is defined twice. -/
theorem notes_assembled_crossing
    : let events : List Event :=
        [.enter .paragraph, .footnoteReference "b", .footnoteReference "a", .leave .paragraph,
          .enter (.footnoteDefinition "a"), .enter .paragraph, .footnoteReference "b",
          .leave .paragraph, .leave .footnoteDefinition,
          .enter (.footnoteDefinition "b"), .text "x", .leave .footnoteDefinition,
          .enter (.footnoteDefinition "a"), .leave .footnoteDefinition]
      (WellNested events ∧ NotesApart events ∧ ReferencesDefined events)
        ∧ NotesAssembled .initial events (Style.initial.notes events)
        ∧ Output.noteIds (Style.initial.apply events) = ["fn:b", "fn:a"] := by
  intro events
  have hnested : WellNested events := by
    apply @WellNested.part .paragraph [.footnoteReference "b", .footnoteReference "a"]
    . exact .content rfl (.content rfl .nil)
    . apply @WellNested.part (.footnoteDefinition "a")
        [.enter .paragraph, .footnoteReference "b", .leave .paragraph]
      . exact @WellNested.part .paragraph [.footnoteReference "b"] [] (.content rfl .nil) .nil
      . apply @WellNested.part (.footnoteDefinition "b") [.text "x"]
        . exact .content rfl .nil
        . exact @WellNested.part (.footnoteDefinition "a") [] [] .nil .nil
  have hapart : NotesApart events := by decide
  have hdefined : ReferencesDefined events := by decide
  exact ⟨⟨hnested, hapart, hdefined⟩, notes_assembled .initial hnested hapart hdefined,
    by decide +kernel⟩

end DirectedMarkdown
