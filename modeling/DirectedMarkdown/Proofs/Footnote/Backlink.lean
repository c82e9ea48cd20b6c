import DirectedMarkdown.Proofs.Footnote.Identifier

/-!
This module contains the links from notes back to their references. A note has a link for each
reference that was met, so that all of them lead somewhere just if no reference is in a definition
that is passed over.
-/

namespace DirectedMarkdown

open Markdown (Event NotesApart ReferencesDefined Tag WellNested everywhere everywhere_takeWhile
  noteContents references)

/--
No reference stands in a definition that is passed over: one whose label is never referred to, or
was defined before.
-/
def Markdown.ReferencesKept (events : List Event) : Prop :=
  Footnotes.RestEmpty (fun inner => references inner = []) (references events)
    (noteContents id events)

namespace Style

/-- The links back that are put into the items of the list of notes. -/
def backlinkSteps (style : Style) (events : List Event) : List Output :=
  (style.notes events).map fun note =>
    .written (style.directives.backlinks note.label note.count)

/-- Where the links back lead. -/
def backlinkTargets (style : Style) (events : List Event) : List String :=
  Output.attributeTexts "a" "href" (style.backlinkSteps events)

end Style

namespace Note

variable (directives : DirectiveSet)

theorem backlinks_sublist_list (notes : List Note)
    : (notes.map fun note => Output.written (directives.backlinks note.label note.count)).Sublist
        (list directives notes) := by
  have hitems : (notes.map fun note =>
      Output.written (directives.backlinks note.label note.count)).Sublist
        (notes.flatMap (item directives)) := by
    induction notes with
    | nil => simp
    | cons note rest ih =>
      rw [List.map_cons, List.flatMap_cons, ← List.singleton_append]
      refine List.Sublist.append ?_ ih
      obtain ⟨front, back, _, hitem⟩ := note.item_eq directives
      rw [hitem, List.singleton_sublist]
      simp
  unfold list
  split
  . next h =>
    rw [List.isEmpty_iff.mp h]
    simp
  . rw [List.cons_append]
    exact .cons _ (hitems.trans (List.sublist_append_left _ _))

end Note

section

variable (style : Style) {events : List Event}

theorem Styling.referenceIds_noteContents {state : Styling} {outer : List Tag}
    (earlier : List String) (fits : Fits outer state)
    (hcloses : everywhere Event.closes outer events)
    (hapart : everywhere Event.standsApart outer events)
    (htally : state.footnotes.referenced = Footnotes.tally earlier)
    : ∀ note ∈ noteContents Prod.fst (trace style state events),
        Output.referenceIds (note.2.flatMap Prod.snd) = []
          ↔ references (note.2.map Prod.fst) = [] := by
  induction events generalizing outer state earlier with
  | nil => simp [trace, noteContents]
  | cons event rest ih =>
    simp only [everywhere, Bool.and_eq_true] at hcloses hapart
    have hnext := fits.step style hcloses.1 hapart.1
    have hnextTally : (step style state event).footnotes.referenced = Footnotes.tally _ :=
      tally_step fits.images htally
    have ih := ih _ hnext hcloses.2 hapart.2 hnextTally
    rw [trace, noteContents]
    cases hdefined : event.definedLabel? with
    | none => exact ih
    | some label =>
      intro note hnote
      rw [List.mem_cons] at hnote
      cases hnote with
      | inr hrest => exact ih note hrest
      | inl hnote =>
        rw [Event.definedLabel?_eq_some_iff] at hdefined
        subst hdefined
        have houtside : outer.any Tag.isImage = false := by
          have hall : ∀ tag ∈ outer, tag.isNote = false ∧ tag.isImage = false := by
            simpa [Event.standsApart] using hapart.1
          simpa using fun tag htag => (hall tag htag).2
        have hinner : note.2 = trace style (step style state (.enter (.footnoteDefinition label)))
            (rest.takeWhile fun event => event ≠ .leave .footnoteDefinition) := by
          rw [hnote, trace_takeWhile]
        have hcloses := everywhere_takeWhile hcloses.2
          fun event => event ≠ .leave .footnoteDefinition
        rw [hinner, referenceIds_trace hnext.images hcloses hnextTally, map_fst_trace]
        rw [List.map_eq_nil_iff, Footnotes.numberedAfter_eq_nil_iff]
        -- In the document, the definition is read with the parts around it still open.
        have houter := Markdown.referencesIn_append_note [] rfl houtside hcloses
          (Markdown.leave_notMem_takeWhile rest)
        rw [List.nil_append] at houter
        rw [Event.opened, houter]
        rfl

namespace Style

/-- The identifiers of all references of a document, in the order in which they are met. -/
def metIds (style : Style) (events : List Event) : List String :=
  (Footnotes.numberedAfter [] (references events)).map style.directives.referenceIdText

/-- The definitions of a document, each with the identifiers of the references in it. -/
def notePages (style : Style) (events : List Event) : List (String × List String) :=
  (Trace.noteBodies (Styling.trace style .start events)).map fun note =>
    (note.1, Output.referenceIds note.2)

section

variable (hnested : WellNested events) (hapart : NotesApart events)

include hnested hapart

theorem restEmpty_notePages_iff
    : Footnotes.RestEmpty (· = []) (references events).eraseDups (style.notePages events)
        ↔ Markdown.ReferencesKept events := by
  have hcontents : noteContents id events
      = (noteContents Prod.fst (Styling.trace style .start events)).map fun note =>
          (note.1, note.2.map Prod.fst) := by
    have := Markdown.noteContents_map id Prod.fst (Styling.trace style .start events)
    rwa [Styling.map_fst_trace] at this
  unfold Markdown.ReferencesKept notePages Trace.noteBodies
  rw [hcontents, Footnotes.restEmpty_map, Footnotes.restEmpty_map, Footnotes.restEmpty_map]
  have hnotes := Styling.referenceIds_noteContents style [] Styling.fits_start
    (hnested.everywhere_closes []) hapart rfl
  have hempty : Footnotes.RestEmpty
        (fun content : Trace => Output.referenceIds (content.flatMap Prod.snd) = [])
        (references events) (noteContents Prod.fst (Styling.trace style .start events))
      ↔ Footnotes.RestEmpty (fun content : Trace => references (content.map Prod.fst) = [])
        (references events) (noteContents Prod.fst (Styling.trace style .start events)) :=
    Footnotes.restEmpty_congr hnotes
  unfold Footnotes.RestEmpty at hempty ⊢
  simp only [List.mem_eraseDups]
  exact hempty

theorem perm_metIds
    : (style.metIds events).Perm
        (Output.referenceIds (Trace.outsideNotes false (Styling.trace style .start events))
          ++ (style.notePages events).flatMap Prod.snd) := by
  have hcloses := hnested.everywhere_closes []
  have hids : Output.referenceIds ((Styling.trace style .start events).flatMap Prod.snd)
      = style.metIds events :=
    Styling.referenceIds_trace rfl hcloses rfl
  have hperm : (Output.referenceIds ((Styling.trace style .start events).flatMap Prod.snd)).Perm
      (Output.referenceIds _) :=
    (Styling.fits_start.perm_noteBodies style hcloses hapart).flatMap_right _
  rw [hids, Output.referenceIds_append, Output.referenceIds_append] at hperm
  rw [Output.referenceIds_flatMap (Trace.noteBodies _)] at hperm
  unfold notePages
  rw [List.flatMap_map]
  simpa [Styling.start, Footnotes.empty, Output.referenceIds, Output.attributeTexts] using hperm

variable (hdefined : ReferencesDefined events)

include hdefined

theorem referenceIds_apply
    : Output.referenceIds (style.apply events)
        = Output.referenceIds (Trace.outsideNotes false (Styling.trace style .start events))
          ++ Footnotes.firstPages (references events).eraseDups (style.notePages events) := by
  rw [style.apply_eq_append_list hnested hapart, Output.referenceIds_append]
  rw [Note.referenceIds_list, style.notes_eq_map hnested hapart hdefined, List.flatMap_map]
  unfold Footnotes.firstPages notePages
  congr 2
  funext label
  rw [lookup_map_snd]
  cases (Trace.noteBodies (Styling.trace style .start events)).lookup label <;> rfl

theorem backlinkTargets_eq
    : style.backlinkTargets events
        = (references events).eraseDups.flatMap fun label =>
            (List.range ((references events).count label)).map fun i =>
              "#" ++ style.directives.referenceIdText (label, i + 1) := by
  unfold backlinkTargets backlinkSteps
  rw [style.notes_eq_map hnested hapart hdefined, List.map_map]
  have hhref : ∀ label occurrence,
      Html.Attribute.written
          { name := "href", value := "#" ++ style.directives.referenceId occurrence label }
        = "#" ++ style.directives.referenceIdText (label, occurrence) :=
    fun label occurrence => Html.Attribute.written_hash _ _ _
  generalize (references events).eraseDups = labels
  induction labels with
  | nil => rfl
  | cons label labels ih =>
    rw [List.map_cons, ← List.singleton_append, Output.attributeTexts_append, ih]
    rw [List.flatMap_cons]
    congr 1
    rw [Function.comp_apply, DirectiveSet.hrefs_backlinks]
    simp only [hhref]

theorem mem_backlinkTargets_iff {target : String}
    : target ∈ style.backlinkTargets events
        ↔ ∃ id ∈ style.metIds events, target = "#" ++ id := by
  rw [style.backlinkTargets_eq hnested hapart hdefined]
  simp only [List.mem_flatMap, List.mem_map, List.mem_range, List.mem_eraseDups]
  constructor
  . rintro ⟨label, _, i, hi, rfl⟩
    refine ⟨_, List.mem_map_of_mem (a := (label, i + 1)) ?_, rfl⟩
    rw [Footnotes.mem_numberedAfter_iff, List.count_nil]
    omega
  . rintro ⟨id, hid, rfl⟩
    obtain ⟨⟨label, n⟩, hmem, rfl⟩ := List.mem_map.mp hid
    rw [Footnotes.mem_numberedAfter_iff, List.count_nil] at hmem
    refine ⟨label, ?_, n - 1, by omega, ?_⟩
    . rw [← List.count_pos_iff]
      omega
    . have : n - 1 + 1 = n := by omega
      rw [this]

theorem referenceIds_apply_subset
    : Output.referenceIds (style.apply events) ⊆ style.metIds events := by
  rw [style.referenceIds_apply hnested hapart hdefined]
  intro id hid
  rw [(style.perm_metIds hnested hapart).mem_iff, List.mem_append]
  exact (List.mem_append.mp hid).imp_right Footnotes.mem_flatMap_of_mem_firstPages

section Default

variable
  (htemplate : style.directives.footnoteBacklinkId = DirectiveSet.initial.footnoteBacklinkId)

include htemplate

theorem nodup_backlinkTargets : (style.backlinkTargets events).Nodup := by
  have hinjective : Function.Injective fun reference =>
      "#" ++ style.directives.referenceIdText reference := by
    intro a b h
    apply DirectiveSet.referenceIdText_injective (htemplate ▸ DirectiveSet.setsNumberOff_initial)
    simpa using h
  rw [style.backlinkTargets_eq hnested hapart hdefined, List.nodup_flatMap]
  constructor
  . intro label _
    apply List.nodup_range.map
    intro i j h
    have := hinjective h
    simpa using this
  . apply (nodup_eraseDups (references events)).imp
    intro label other hne target htarget hother
    rw [List.mem_map] at htarget hother
    obtain ⟨i, _, rfl⟩ := htarget
    obtain ⟨j, _, h⟩ := hother
    have := hinjective h
    exact hne (congrArg Prod.fst this).symm

omit hdefined in
theorem nodup_metIds
    : (Output.referenceIds (Trace.outsideNotes false (Styling.trace style .start events))
        ++ (style.notePages events).flatMap Prod.snd).Nodup := by
  apply (style.perm_metIds hnested hapart).nodup
  apply (Footnotes.nodup_numberedAfter [] _).map
  exact DirectiveSet.referenceIdText_injective (htemplate ▸ DirectiveSet.setsNumberOff_initial)

theorem metIds_subset_iff
    : style.metIds events ⊆ Output.referenceIds (style.apply events)
        ↔ Markdown.ReferencesKept events := by
  have hnodup := style.nodup_metIds hnested hapart htemplate
  rw [List.nodup_append] at hnodup
  obtain ⟨_, hpages, hdisjoint⟩ := hnodup
  rw [← style.restEmpty_notePages_iff hnested hapart]
  rw [← Footnotes.flatMap_subset_firstPages_iff hpages]
  rw [style.referenceIds_apply hnested hapart hdefined]
  constructor
  . intro h id hid
    have hmet := (style.perm_metIds hnested hapart).mem_iff.mpr (List.mem_append_right _ hid)
    cases List.mem_append.mp (h hmet) with
    | inl houtside => exact absurd rfl (hdisjoint id houtside id hid)
    | inr hfirst => exact hfirst
  . intro h id hid
    rw [(style.perm_metIds hnested hapart).mem_iff] at hid
    rw [List.mem_append] at hid ⊢
    exact hid.imp_right fun hpage => h hpage

end Default

end

end Style

/--
Every reference in the output is led to by just one link back. Every link back leads to just one
reference in the output, if no reference is in a definition that is passed over, and only then.
-/
theorem backlinks_land_iff
    (htemplate : style.directives.footnoteBacklinkId = DirectiveSet.initial.footnoteBacklinkId)
    (hnested : WellNested events) (hapart : NotesApart events)
    (hdefined : ReferencesDefined events)
    : (style.backlinkSteps events).Sublist (style.apply events)
        ∧ (∀ id ∈ Output.referenceIds (style.apply events),
            (style.backlinkTargets events).count ("#" ++ id) = 1)
        ∧ ((∀ target ∈ style.backlinkTargets events, ∃ id, target = "#" ++ id
              ∧ (Output.referenceIds (style.apply events)).count id = 1)
            ↔ Markdown.ReferencesKept events) := by
  have htargets := style.nodup_backlinkTargets hnested hapart hdefined htemplate
  have hids := style.nodup_referenceIds_apply hnested
    (htemplate ▸ DirectiveSet.setsNumberOff_initial)
  refine ⟨?_, ?_, ?_⟩
  . rw [style.apply_eq_append_list hnested hapart]
    exact (Note.backlinks_sublist_list _ _).trans (List.sublist_append_right _ _)
  . intro id hid
    apply List.count_eq_one_of_mem htargets
    rw [style.mem_backlinkTargets_iff hnested hapart hdefined]
    exact ⟨id, style.referenceIds_apply_subset hnested hapart hdefined hid, rfl⟩
  . rw [← style.metIds_subset_iff hnested hapart hdefined htemplate]
    constructor
    . intro h id hid
      obtain ⟨other, heq, hcount⟩ := h ("#" ++ id)
        ((style.mem_backlinkTargets_iff hnested hapart hdefined).mpr ⟨id, hid, rfl⟩)
      obtain rfl : id = other := by simpa using heq
      rw [← List.count_pos_iff]
      omega
    . intro h target htarget
      rw [style.mem_backlinkTargets_iff hnested hapart hdefined] at htarget
      obtain ⟨id, hid, rfl⟩ := htarget
      exact ⟨id, rfl, List.count_eq_one_of_mem hids (h hid)⟩

end

/-- The note is referred to a second time, from a definition that is never referred to. -/
theorem backlink_dangles
    : let events : List Event :=
        [.enter .paragraph, .text "Text", .footnoteReference "b", .leave .paragraph,
          .enter (.footnoteDefinition "a"), .footnoteReference "b", .leave .footnoteDefinition,
          .enter (.footnoteDefinition "b"), .text "note", .leave .footnoteDefinition]
      (Style.initial.directives.footnoteBacklinkId = DirectiveSet.initial.footnoteBacklinkId
          ∧ WellNested events ∧ NotesApart events ∧ ReferencesDefined events)
        ∧ ¬∀ target ∈ Style.initial.backlinkTargets events, ∃ id, target = "#" ++ id
            ∧ (Output.referenceIds (Style.initial.apply events)).count id = 1 := by
  intro events
  have hnested : WellNested events := by
    apply @WellNested.part .paragraph [.text "Text", .footnoteReference "b"]
    . exact .content rfl (.content rfl .nil)
    . apply @WellNested.part (.footnoteDefinition "a") [.footnoteReference "b"]
      . exact .content rfl .nil
      . apply @WellNested.part (.footnoteDefinition "b") [.text "note"]
        . exact .content rfl .nil
        . exact .nil
  have hapart : NotesApart events := by decide
  have hdefined : ReferencesDefined events := by decide
  refine ⟨⟨rfl, hnested, hapart, hdefined⟩, ?_⟩
  rw [(backlinks_land_iff .initial rfl hnested hapart hdefined).2.2]
  intro hkept
  have := hkept [] "a" [.footnoteReference "b"] [("b", [.text "note"])] rfl
  revert this
  decide

end DirectedMarkdown
