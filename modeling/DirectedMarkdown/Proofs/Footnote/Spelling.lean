import DirectedMarkdown.Markdown.Link
import DirectedMarkdown.Proofs.Footnote.Identifier

/-!
This module contains references whose labels match a footnote definition up to case. The notes of a
document are kept under their labels as they are spelled, so that a reference leads to its note just
if it is spelled as the definition.
-/

namespace DirectedMarkdown

namespace Markdown

/-- Whether the event, if it refers to a footnote outside of images, matches one of these keys. -/
def Event.matchesKey (keys : List String) (outer : List Tag) : Event → Bool
  | .footnoteReference label => outer.any Tag.isImage || keys.contains (Link.labelKey label)
  | _ => true

/-- Every reference outside of images matches a footnote definition up to case. -/
def ReferencesMatched (events : List Event) : Prop :=
  everywhere (Event.matchesKey ((definedLabels events).map Link.labelKey)) [] events

instance (events : List Event) : Decidable (ReferencesMatched events) :=
  inferInstanceAs (Decidable (_ = true))

/--
Every reference is spelled as a definition, and references that match one definition are spelled
alike.
-/
structure ReferencesSpelled (events : List Event) : Prop where
  defined : ∀ label ∈ references events, label ∈ definedLabels events
  alike : ∀ definition ∈ definedLabels events, ∀ label ∈ references events,
    ∀ other ∈ references events, Link.labelKey label = Link.labelKey definition →
      Link.labelKey other = Link.labelKey definition → label = other

end Markdown

open Markdown (Event NotesApart RefersAt ReferencesMatched ReferencesSpelled WellNested
  definedLabels everywhere_append mem_references_iff openParts references references_middle)

/-- The reference behind the events `before` is written as one of this number. -/
def Style.Shows (style : Style) (events before : List Event) (label : String) (number : Nat)
    : Prop :=
  ∃ occurrence, (Styling.trace style .start events)[before.length]?
    = some (.footnoteReference label,
        [.written (style.directives.noteReference label number occurrence)])

/-- The reference behind the events `before` links to an item in the output. -/
def Style.Lands (style : Style) (events before : List Event) (label : String) : Prop :=
  ∃ step, (Styling.trace style .start events)[before.length]?
      = some (.footnoteReference label, [step])
    ∧ ∃ id ∈ Output.noteIds (style.apply events),
      Output.attributeTexts "a" "href" [step] = ["#" ++ id]

/-- References reach the definitions that they match up to case. -/
structure ReferencesReach (style : Style) (events : List Event) : Prop where
  lands : ∀ before label, RefersAt events before label → style.Lands events before label
  agrees : ∀ definition ∈ definedLabels events, ∀ before label behind other,
    RefersAt events before label → RefersAt events behind other →
      Markdown.Link.labelKey label = Markdown.Link.labelKey definition →
      Markdown.Link.labelKey other = Markdown.Link.labelKey definition →
        ∃ number, style.Shows events before label number ∧ style.Shows events behind other number

namespace DirectiveSet

/-- Notes with different labels are identified differently. -/
def TellsNotesApart (directives : DirectiveSet) : Prop :=
  Function.Injective directives.noteId ∧ Function.Injective directives.referenceText

theorem noteId_initial (label : String)
    : (initial.noteId label).toList = "fn:".toList ++ label.toList := by
  have hparts : Text.splitOn ['%', 's'] initial.footnoteLinkId.toList = ["fn:".toList, []] := by rfl
  unfold noteId Template.fill
  rw [hparts]
  simp [Template.join]

theorem tellsNotesApart_initial : initial.TellsNotesApart := by
  constructor
  . intro label other h
    have hchars := congrArg String.toList h
    rw [noteId_initial, noteId_initial, List.append_cancel_left_eq] at hchars
    exact String.toList_inj.mp hchars
  . intro number other h
    have hread : ∀ k : Nat, Nat.ofDigitChars 10 (initial.referenceText k).toList 0 = k := by
      intro k
      have htext : initial.referenceText k = toString k := rfl
      simp [htext]
    rw [← hread number, h, hread]

theorem referenceText_eq_of_noteReference_eq {directives : DirectiveSet} {label : String}
    {number other occurrence count : Nat}
    (h : directives.noteReference label number occurrence
      = directives.noteReference label other count)
    : directives.referenceText number = directives.referenceText other := by
  simp only [noteReference, List.cons.injEq, Html.Markup.verbatim.injEq] at h
  exact h.2.2.1

end DirectiveSet

section

variable (style : Style) {events : List Event}

/-- The list has an item for each label that is referred to and defined in the same spelling. -/
theorem Style.map_label_notes (hnested : WellNested events) (hapart : NotesApart events)
    : (style.notes events).map Note.label
        = (references events).eraseDups.filter fun label => label ∈ definedLabels events := by
  have hreferenced : (events.foldl (Styling.step style) .start).footnotes.close.referenced
      = Footnotes.tally (references events) := by
    rw [Footnotes.close_referenced]
    exact Styling.tally_foldl_step [] rfl (hnested.everywhere_closes []) rfl
  unfold Style.notes Footnotes.notes
  rw [hreferenced, Footnotes.tally, List.filterMap_map, List.map_filterMap]
  rw [← List.filterMap_eq_filter]
  apply List.filterMap_congr
  intro label _
  dsimp only [Function.comp_apply]
  rw [style.lookup_definitions hnested hapart, Option.map_map]
  by_cases hlabel : label ∈ definedLabels events
  . obtain ⟨body, hbody⟩ := style.lookup_noteBodies_of_mem hlabel
    simp [hbody, hlabel]
  . have hnone : (Trace.noteBodies (Styling.trace style .start events)).lookup label = none := by
      rw [List.lookup_eq_none_iff]
      intro entry hentry
      have hfirst := List.mem_map_of_mem (f := Prod.fst) hentry
      rw [Trace.map_fst_noteBodies] at hfirst
      simpa using fun heq : label = entry.1 => hlabel (heq ▸ hfirst)
    simp [hnone, Option.guard, hlabel]

variable (hnested : WellNested events)

include hnested

theorem Style.lands_iff {before : List Event} {label : String}
    (hrefers : RefersAt events before label)
    : style.Lands events before label
        ↔ ∃ other ∈ (style.notes events).map Note.label,
            style.directives.noteId label = style.directives.noteId other := by
  have hhrefs : ∀ id number occurrence,
      Output.attributeTexts "a" "href"
          [.written (style.directives.noteReference label number occurrence)] = ["#" ++ id]
        ↔ style.directives.noteIdText label = id := by
    intro id number occurrence
    rw [DirectiveSet.hrefs_noteReference, Html.Attribute.written_hash "href" "id"]
    simp [DirectiveSet.noteIdText]
  unfold Style.Lands
  rw [style.trace_of_refersAt hnested hrefers, style.noteIds_apply]
  constructor
  . rintro ⟨step, hstep, id, hid, hhref⟩
    simp only [Option.some.injEq, Prod.mk.injEq, List.cons.injEq, and_true, true_and] at hstep
    rw [← hstep, hhrefs] at hhref
    obtain ⟨other, hother, rfl⟩ := List.mem_map.mp hid
    exact ⟨other, hother, Html.escape_injective hhref⟩
  . rintro ⟨other, hother, hid⟩
    refine ⟨_, rfl, _, List.mem_map_of_mem hother, (hhrefs _ _ _).mpr ?_⟩
    unfold DirectiveSet.noteIdText
    rw [hid]

theorem Style.shows_place {before : List Event} {label : String}
    (hrefers : RefersAt events before label)
    : style.Shows events before label ((references events).eraseDups.idxOf label + 1) :=
  ⟨_, style.trace_of_refersAt hnested hrefers⟩

theorem Style.eq_place_of_shows (htells : style.directives.TellsNotesApart) {before : List Event}
    {label : String} {number : Nat} (hrefers : RefersAt events before label)
    (hshows : style.Shows events before label number)
    : number = (references events).eraseDups.idxOf label + 1 := by
  obtain ⟨occurrence, hshows⟩ := hshows
  rw [style.trace_of_refersAt hnested hrefers] at hshows
  simp only [Option.some.injEq, Prod.mk.injEq, List.cons.injEq, and_true, true_and,
    Output.written.injEq] at hshows
  exact (htells.2 (DirectiveSet.referenceText_eq_of_noteReference_eq hshows)).symm

theorem Style.label_eq_of_shows (htells : style.directives.TellsNotesApart)
    {before behind : List Event} {label other : String} {number : Nat}
    (hrefers : RefersAt events before label) (hother : RefersAt events behind other)
    (hshows : style.Shows events before label number)
    (hsame : style.Shows events behind other number)
    : label = other := by
  have hplace := style.eq_place_of_shows hnested htells hrefers hshows
  rw [style.eq_place_of_shows hnested htells hother hsame, Nat.add_right_cancel_iff] at hplace
  have hmem : label ∈ (references events).eraseDups :=
    List.mem_eraseDups.mpr (mem_references_iff.mpr ⟨before, hrefers⟩)
  exact ((List.idxOf_inj hmem).mp hplace.symm)

variable (hapart : NotesApart events)

include hapart

theorem ReferencesReach.of_spelled (hspelled : ReferencesSpelled events)
    : ReferencesReach style events := by
  constructor
  . intro before label hrefers
    have hlabel := mem_references_iff.mpr ⟨before, hrefers⟩
    rw [style.lands_iff hnested hrefers, style.map_label_notes hnested hapart]
    refine ⟨label, ?_, rfl⟩
    rw [List.mem_filter, List.mem_eraseDups]
    exact ⟨hlabel, by simpa using hspelled.defined label hlabel⟩
  . intro definition hdefinition before label behind other hrefers hother hmatch hsame
    have heq := hspelled.alike definition hdefinition label
      (mem_references_iff.mpr ⟨before, hrefers⟩) other (mem_references_iff.mpr ⟨behind, hother⟩)
      hmatch hsame
    subst heq
    exact ⟨_, style.shows_place hnested hrefers, style.shows_place hnested hother⟩

theorem ReferencesReach.spelled (htells : style.directives.TellsNotesApart)
    (hreach : ReferencesReach style events) : ReferencesSpelled events := by
  constructor
  . intro label hlabel
    obtain ⟨before, hrefers⟩ := mem_references_iff.mp hlabel
    have hlands := hreach.lands before label hrefers
    rw [style.lands_iff hnested hrefers, style.map_label_notes hnested hapart] at hlands
    obtain ⟨other, hother, hid⟩ := hlands
    rw [htells.1 hid]
    simpa using (List.mem_filter.mp hother).2
  . intro definition hdefinition label hlabel other hother hmatch hsame
    obtain ⟨before, hrefers⟩ := mem_references_iff.mp hlabel
    obtain ⟨behind, hbehind⟩ := mem_references_iff.mp hother
    obtain ⟨number, hshows, hnumber⟩ := hreach.agrees definition hdefinition before label behind
      other hrefers hbehind hmatch hsame
    exact style.label_eq_of_shows hnested htells hrefers hbehind hshows hnumber

/--
The list of notes has an item for each label that is referred to and defined in the same spelling.
References reach the definitions that they match if they are spelled as these, and only then where
the labels and numbers of notes can be told apart.
-/
theorem references_reach_iff
    : (style.notes events).map Note.label
          = ((references events).eraseDups.filter fun label => label ∈ definedLabels events)
        ∧ Output.noteIds (style.apply events)
          = ((references events).eraseDups.filter fun label => label ∈ definedLabels events).map
            style.directives.noteIdText
        ∧ (ReferencesSpelled events → ReferencesReach style events)
        ∧ (style.directives.TellsNotesApart →
            (ReferencesReach style events ↔ ReferencesSpelled events)) := by
  have hreach : ReferencesSpelled events → ReferencesReach style events :=
    ReferencesReach.of_spelled style hnested hapart
  have hlabels := style.map_label_notes hnested hapart
  refine ⟨hlabels, ?_, hreach, ?_⟩
  . rw [style.noteIds_apply, hlabels]
  . intro htells
    exact ⟨ReferencesReach.spelled style hnested hapart htells, hreach⟩

end

/-- The reference is spelled with a capital letter, its definition is not. -/
theorem reference_misses_definition
    : let events : List Event :=
        [.enter .paragraph, .text "Text", .footnoteReference "Note", .leave .paragraph,
          .enter (.footnoteDefinition "note"), .enter .paragraph, .text "body", .leave .paragraph,
          .leave .footnoteDefinition]
      (WellNested events ∧ NotesApart events ∧ ReferencesMatched events)
        ∧ ¬ReferencesReach .initial events := by
  intro events
  have hnested : WellNested events := by
    apply @WellNested.part .paragraph [.text "Text", .footnoteReference "Note"]
    . exact .content rfl (.content rfl .nil)
    . apply @WellNested.part (.footnoteDefinition "note")
        [.enter .paragraph, .text "body", .leave .paragraph]
      . exact @WellNested.part .paragraph [.text "body"] [] (.content rfl .nil) .nil
      . exact .nil
  have hapart : NotesApart events := by decide
  have hmatched : ReferencesMatched events := by decide
  refine ⟨⟨hnested, hapart, hmatched⟩, ?_⟩
  have hiff := (references_reach_iff .initial hnested hapart).2.2.2
    DirectiveSet.tellsNotesApart_initial
  rw [hiff]
  intro hspelled
  have := hspelled.defined "Note" (by decide)
  revert this
  decide

end DirectedMarkdown
