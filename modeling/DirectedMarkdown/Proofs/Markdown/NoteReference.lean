import DirectedMarkdown.Proofs.Markdown.OpenPart

/-!
This module contains the footnotes of a document as its events show them: the references outside of
images, the labels that are defined, and where a definition may stand.
-/

namespace DirectedMarkdown.Markdown

namespace Event

/-- Whether the event, if it starts a footnote definition, stands in no definition and no image. -/
def standsApart (outer : List Tag) : Event → Bool
  | enter (.footnoteDefinition _) => outer.all fun tag => !tag.isNote && !tag.isImage
  | _ => true

/-- Whether the event, if it refers to a footnote outside of images, has one of these labels. -/
def refersTo (labels : List String) (outer : List Tag) : Event → Bool
  | footnoteReference label => outer.any Tag.isImage || labels.contains label
  | _ => true

/-- The label of the footnote that the event defines. -/
def definedLabel? : Event → Option String
  | enter (.footnoteDefinition label) => some label
  | _ => none

/-- Whether the event is a reference to a footnote, or starts or ends a definition. -/
def isFootnote : Event → Bool
  | footnoteReference _ | enter (.footnoteDefinition _) | leave .footnoteDefinition => true
  | _ => false

theorem definedLabel?_eq_some_iff {event : Event} {label : String}
    : event.definedLabel? = some label ↔ event = enter (.footnoteDefinition label) := by
  unfold definedLabel?
  split
  . simp
  . next h => simpa using h label

/-- The label that the event refers to, unless it stands in an image. -/
def referredLabel? (outer : List Tag) : Event → Option String
  | footnoteReference label => if outer.any Tag.isImage then none else some label
  | _ => none

theorem referredLabel?_eq_some_iff {outer : List Tag} {event : Event} {label : String}
    : event.referredLabel? outer = some label
        ↔ event = footnoteReference label ∧ outer.any Tag.isImage = false := by
  cases event with
  | footnoteReference other =>
    cases h : outer.any Tag.isImage <;> simp [referredLabel?, h]
  | _ => simp [referredLabel?]

end Event

/-- The labels of all footnote definitions, in order. -/
def definedLabels (events : List Event) : List String :=
  events.filterMap Event.definedLabel?

/-- The footnote definitions among entries with events, each with the entries that it holds. -/
def noteContents {α : Type} (event : α → Event) : List α → List (String × List α)
  | [] => []
  | entry :: rest =>
    match (event entry).definedLabel? with
    | some label =>
      (label, rest.takeWhile fun entry => event entry ≠ .leave .footnoteDefinition)
        :: noteContents event rest
    | none => noteContents event rest

/-- Footnote definitions stand neither in one another nor in images. -/
def NotesApart (events : List Event) : Prop :=
  everywhere Event.standsApart [] events

/-- Every reference outside of images has the label of a footnote definition. -/
def ReferencesDefined (events : List Event) : Prop :=
  everywhere (Event.refersTo (definedLabels events)) [] events

def NoFootnotes (events : List Event) : Prop :=
  ∀ event ∈ events, event.isFootnote = false

instance (events : List Event) : Decidable (NoFootnotes events) :=
  inferInstanceAs (Decidable (∀ event ∈ events, _))

instance (events : List Event) : Decidable (NotesApart events) :=
  inferInstanceAs (Decidable (_ = true))

instance (events : List Event) : Decidable (ReferencesDefined events) :=
  inferInstanceAs (Decidable (_ = true))

/-- The labels of the references outside of images, in order. -/
def referencesIn (outer : List Tag) : List Event → List String
  | [] => []
  | event :: rest =>
    (event.referredLabel? outer).toList ++ referencesIn (event.opened outer) rest

def references (events : List Event) : List String :=
  referencesIn [] events

theorem noteContents_map {α β : Type} (event : β → Event) (f : α → β) (entries : List α)
    : noteContents event (entries.map f)
        = (noteContents (event ∘ f) entries).map fun note => (note.1, note.2.map f) := by
  induction entries with
  | nil => rfl
  | cons entry rest ih =>
    simp only [List.map_cons, noteContents, Function.comp_apply]
    split
    . rw [ih, List.takeWhile_map]
      rfl
    . exact ih

theorem map_fst_noteContents {α : Type} (event : α → Event) (entries : List α)
    : (noteContents event entries).map Prod.fst = definedLabels (entries.map event) := by
  unfold definedLabels
  induction entries with
  | nil => rfl
  | cons entry rest ih =>
    rw [List.map_cons, noteContents, List.filterMap_cons]
    cases (event entry).definedLabel? <;> simp [ih]

theorem referencesIn_append (outer : List Tag) (xs ys : List Event)
    : referencesIn outer (xs ++ ys)
        = referencesIn outer xs ++ referencesIn (xs.foldl Event.opened outer) ys := by
  induction xs generalizing outer with
  | nil => simp [referencesIn]
  | cons x xs ih => simp [referencesIn, ih]

theorem leave_notMem_takeWhile (events : List Event)
    : .leave .footnoteDefinition
        ∉ events.takeWhile fun event => event ≠ .leave .footnoteDefinition := by
  intro hmem
  have := List.all_eq_true.mp List.all_takeWhile _ hmem
  simp at this

/-- Until a definition ends, what stands around it makes no difference to the references in it. -/
theorem referencesIn_append_note {note : Tag} (inner : List Tag) {outer : List Tag}
    {events : List Event} (hnote : note.isNote) (houtside : outer.any Tag.isImage = false)
    (hcloses : everywhere Event.closes (inner ++ note :: outer) events)
    (hleave : .leave .footnoteDefinition ∉ events)
    : referencesIn (inner ++ note :: outer) events = referencesIn inner events := by
  have himage : note.isImage = false := by
    rw [Tag.isNote_eq_element, beq_iff_eq] at hnote
    rw [Tag.isImage_eq_element, hnote]
    rfl
  induction events generalizing inner with
  | nil => rfl
  | cons event rest ih =>
    simp only [everywhere, Bool.and_eq_true] at hcloses
    rw [List.mem_cons, not_or] at hleave
    have hreferred : event.referredLabel? (inner ++ note :: outer)
        = event.referredLabel? inner := by
      cases event with
      | footnoteReference label => simp [Event.referredLabel?, himage, houtside]
      | _ => rfl
    have hopened : event.opened (inner ++ note :: outer) = event.opened inner ++ note :: outer := by
      cases event with
      | leave element =>
        cases inner with
        | nil =>
          -- Only the definition itself can end here, and it does not.
          have helement : note.element = element := by simpa [Event.closes] using hcloses.1
          rw [Tag.isNote_eq_element, beq_iff_eq, helement] at hnote
          exact absurd (hnote ▸ rfl) hleave.1
        | cons tag inner => rfl
      | _ => rfl
    rw [referencesIn, referencesIn, hreferred, hopened]
    rw [hopened] at hcloses
    rw [ih _ hcloses.2 hleave.2]

theorem references_middle {before after : List Event} {label : String}
    (houtside : (openParts before).any Tag.isImage = false)
    : references (before ++ .footnoteReference label :: after)
        = references before ++ label :: referencesIn (openParts before) after := by
  unfold references
  rw [referencesIn_append, referencesIn]
  have hlabel : (Event.footnoteReference label).referredLabel? (before.foldl Event.opened [])
      = some label := by
    rw [Event.referredLabel?_eq_some_iff]
    exact ⟨rfl, houtside⟩
  rw [hlabel]
  rfl

/-- Behind the events `before`, a document refers to a footnote, and not in an image. -/
structure RefersAt (events before : List Event) (label : String) : Prop where
  split : ∃ after, events = before ++ .footnoteReference label :: after
  outside : (openParts before).any Tag.isImage = false

theorem mem_referencesIn_iff {outer : List Tag} {events : List Event} {label : String}
    : label ∈ referencesIn outer events
        ↔ ∃ before after, events = before ++ .footnoteReference label :: after
            ∧ (before.foldl Event.opened outer).any Tag.isImage = false := by
  induction events generalizing outer with
  | nil => simp [referencesIn]
  | cons event rest ih =>
    rw [referencesIn, List.mem_append, Option.mem_toList, ih, Event.referredLabel?_eq_some_iff]
    constructor
    . rintro (⟨rfl, houtside⟩ | ⟨before, after, rfl, houtside⟩)
      . exact ⟨[], rest, rfl, houtside⟩
      . exact ⟨event :: before, after, rfl, houtside⟩
    . rintro ⟨before, after, hsplit, houtside⟩
      cases before with
      | nil =>
        rw [List.nil_append, List.cons.injEq] at hsplit
        exact .inl ⟨hsplit.1, houtside⟩
      | cons first before =>
        rw [List.cons_append, List.cons.injEq] at hsplit
        obtain ⟨rfl, hrest⟩ := hsplit
        exact .inr ⟨before, after, hrest, houtside⟩

theorem mem_references_iff {events : List Event} {label : String}
    : label ∈ references events ↔ ∃ before, RefersAt events before label := by
  unfold references
  rw [mem_referencesIn_iff]
  constructor
  . rintro ⟨before, after, hsplit, houtside⟩
    exact ⟨before, ⟨after, hsplit⟩, houtside⟩
  . rintro ⟨before, ⟨after, hsplit⟩, houtside⟩
    exact ⟨before, after, hsplit, houtside⟩

theorem mem_labels_of_mem_referencesIn {labels : List String} {outer : List Tag}
    {events : List Event} (h : everywhere (Event.refersTo labels) outer events)
    : ∀ label ∈ referencesIn outer events, label ∈ labels := by
  induction events generalizing outer with
  | nil => simp [referencesIn]
  | cons event rest ih =>
    simp only [everywhere, Bool.and_eq_true] at h
    intro label hlabel
    rw [referencesIn, List.mem_append, Option.mem_toList] at hlabel
    cases hlabel with
    | inl hhead =>
      rw [Event.referredLabel?_eq_some_iff] at hhead
      have := h.1
      rw [hhead.1] at this
      simpa [Event.refersTo, hhead.2] using this
    | inr htail => exact ih h.2 label htail

theorem ReferencesDefined.mem_definedLabels {events : List Event} (h : ReferencesDefined events)
    {label : String} (hlabel : label ∈ references events) : label ∈ definedLabels events :=
  mem_labels_of_mem_referencesIn h label hlabel

end DirectedMarkdown.Markdown
