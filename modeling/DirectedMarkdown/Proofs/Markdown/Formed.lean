import DirectedMarkdown.Proofs.Markdown.OpenPart

/-!
This module contains the documents whose tables are in form: a table has a head and rows after it,
and these have cells. Blocks stand neither in the cells of tables nor in images, footnote
definitions and tables may be anywhere else.
-/

namespace DirectedMarkdown.Markdown

namespace Tag

def isTablePart : Tag → Bool
  | table _ | tableHead | tableRow | tableCell => true
  | _ => false

end Tag

namespace Event

/-- Whether the event, if it starts or ends the head, a row or a cell, stands in a table. -/
def standsInTable (outer : List Tag) : Event → Bool
  | enter .tableHead | enter .tableRow | enter .tableCell
  | leave .tableHead | leave .tableRow | leave .tableCell => outer.any (·.element = .table)
  | _ => true

def isTablePart : Event → Bool
  | enter tag => tag.isTablePart
  | leave .table | leave .tableHead | leave .tableRow | leave .tableCell => true
  | _ => false

/-- Whether the event neither starts nor ends a footnote definition or a part of a table. -/
def isRunning : Event → Bool
  | enter (.footnoteDefinition _) | leave .footnoteDefinition => false
  | event => !event.isTablePart

end Event

/-- Heads, rows and cells of tables stand in tables. -/
def TablesWhole (events : List Event) : Prop :=
  everywhere Event.standsInTable [] events

instance (events : List Event) : Decidable (TablesWhole events) :=
  inferInstanceAs (Decidable (_ = true))

/-- Content without footnote definitions and tables. -/
inductive Running : List Event → Prop where
  | nil : Running []
  | content {event : Event} {rest : List Event}
    : event.isContent → Running rest → Running (event :: rest)
  | part {tag : Tag} {inner rest : List Event}
    : tag.isNote = false → tag.isTablePart = false → Running inner → Running rest
      → Running (.enter tag :: inner ++ .leave tag.element :: rest)

/-- The cells of a row of a table. -/
inductive Cells : List Event → Prop where
  | nil : Cells []
  | cell {inner rest : List Event}
    : Running inner → Cells rest
      → Cells (.enter .tableCell :: inner ++ .leave .tableCell :: rest)

/-- The rows of the body of a table. -/
inductive Rows : List Event → Prop where
  | nil : Rows []
  | row {cells rest : List Event}
    : Cells cells → Rows rest → Rows (.enter .tableRow :: cells ++ .leave .tableRow :: rest)

/-- Documents whose tables are in form. -/
inductive Formed : List Event → Prop where
  | nil : Formed []
  | content {event : Event} {rest : List Event}
    : event.isContent → Formed rest → Formed (event :: rest)
  | part {tag : Tag} {inner rest : List Event}
    : tag.isImage = false → tag.isTablePart = false → Formed inner → Formed rest
      → Formed (.enter tag :: inner ++ .leave tag.element :: rest)
  | image {url title : String} {inner rest : List Event}
    : Running inner → Formed rest
      → Formed (.enter (.image url title) :: inner ++ .leave .image :: rest)
  | table {alignments : List ColumnAlignment} {head rows rest : List Event}
    : Cells head → Rows rows → Formed rest
      → Formed (.enter (.table alignments)
          :: (.enter .tableHead :: head ++ .leave .tableHead :: rows) ++ .leave .table :: rest)

namespace Event

/-- The parts that are open in the footnote definition that is being read, if one is. -/
def read (parts : Option (List Tag)) : Event → Option (List Tag)
  | enter (.footnoteDefinition _) => some []
  | leave .footnoteDefinition => none
  | event => parts.map event.opened

/-- Whether the event, if it starts a footnote definition, is in no open part of another one. -/
def cutsNothing (parts : Option (List Tag)) : Event → Bool
  | enter (.footnoteDefinition _) => parts.getD [] = []
  | _ => true

end Event

def notesWholeFrom (parts : Option (List Tag)) : List Event → Bool
  | [] => true
  | event :: rest => event.cutsNothing parts && notesWholeFrom (event.read parts) rest

/--
No footnote definition starts where a part of the one that is being read is open. The one that is
being read is the last that was started, until the end of any.
-/
def NotesWhole (events : List Event) : Prop :=
  notesWholeFrom none events

instance (events : List Event) : Decidable (NotesWhole events) :=
  inferInstanceAs (Decidable (_ = true))

theorem notesWholeFrom_append (parts : Option (List Tag)) (xs ys : List Event)
    : notesWholeFrom parts (xs ++ ys)
        = (notesWholeFrom parts xs && notesWholeFrom (xs.foldl Event.read parts) ys) := by
  induction xs generalizing parts with
  | nil => simp [notesWholeFrom]
  | cons x xs ih => simp [notesWholeFrom, ih, Bool.and_assoc]

theorem notesWholeFrom_part (parts : Option (List Tag)) (tag : Tag) (element : Element)
    (inner rest : List Event)
    : notesWholeFrom parts (.enter tag :: inner ++ .leave element :: rest)
        = ((Event.enter tag).cutsNothing parts
          && notesWholeFrom ((Event.enter tag).read parts) inner
          && notesWholeFrom
            ((Event.leave element).read (inner.foldl Event.read ((Event.enter tag).read parts)))
            rest) := by
  have hleave : ∀ read, (Event.leave element).cutsNothing read = true := fun _ => rfl
  rw [List.cons_append, notesWholeFrom, notesWholeFrom_append, notesWholeFrom]
  rw [hleave, Bool.true_and, Bool.and_assoc]

theorem read_of_isContent {event : Event} (h : event.isContent) (parts : Option (List Tag))
    : event.read parts = parts := by
  cases event <;> simp_all [Event.read, Event.opened, Event.isContent]

theorem cutsNothing_of_isContent {event : Event} (h : event.isContent)
    (parts : Option (List Tag)) : event.cutsNothing parts := by
  cases event <;> simp_all [Event.cutsNothing, Event.isContent]

theorem read_enter {tag : Tag} (h : tag.isNote = false) (parts : Option (List Tag))
    : (Event.enter tag).read parts = parts.map (tag :: ·) := by
  cases tag <;> simp_all [Event.read, Event.opened, Tag.isNote]

theorem read_leave {tag : Tag} (h : tag.isNote = false) (parts : Option (List Tag))
    : (Event.leave tag.element).read parts = parts.map List.tail := by
  cases tag <;> simp_all [Event.read, Event.opened, Tag.isNote, Tag.element]

theorem read_leave_enter (tag : Tag) (h : tag.isNote = false) (parts : Option (List Tag))
    : (Event.leave tag.element).read ((Event.enter tag).read parts) = parts := by
  rw [read_enter h, read_leave h]
  cases parts <;> rfl

theorem cutsNothing_enter {tag : Tag} (h : tag.isNote = false) (parts : Option (List Tag))
    : (Event.enter tag).cutsNothing parts := by
  cases tag <;> simp_all [Event.cutsNothing, Tag.isNote]

/-- No event starts or ends a definition, and all parts that are entered are left. -/
def KeepsNotes (events : List Event) : Prop :=
  ∀ parts, events.foldl Event.read parts = parts ∧ notesWholeFrom parts events

theorem KeepsNotes.read_part (tag : Tag) {inner : List Event} (hinner : KeepsNotes inner)
    (hnote : tag.isNote = false) (rest : List Event) (parts : Option (List Tag))
    : (.enter tag :: inner ++ .leave tag.element :: rest).foldl Event.read parts
          = rest.foldl Event.read parts
        ∧ notesWholeFrom parts (.enter tag :: inner ++ .leave tag.element :: rest)
          = notesWholeFrom parts rest := by
  obtain ⟨hread, hwhole⟩ := hinner ((Event.enter tag).read parts)
  rw [foldl_part, notesWholeFrom_part, hread, hwhole, read_leave_enter tag hnote]
  rw [cutsNothing_enter hnote]
  simp

theorem KeepsNotes.part (tag : Tag) {inner rest : List Event} (hinner : KeepsNotes inner)
    (hnote : tag.isNote = false) (hrest : KeepsNotes rest)
    : KeepsNotes (.enter tag :: inner ++ .leave tag.element :: rest) := by
  intro parts
  obtain ⟨hread, hwhole⟩ := hinner.read_part tag hnote rest parts
  rw [hread, hwhole]
  exact hrest parts

theorem Running.wellNested {events : List Event} (h : Running events) : WellNested events := by
  induction h with
  | nil => exact .nil
  | content hcontent _ ih => exact .content hcontent ih
  | part _ _ _ _ ihInner ihRest => exact .part ihInner ihRest

theorem isRunning_of_isContent {event : Event} (h : event.isContent) : event.isRunning := by
  cases event with
  | enter tag => simp [Event.isContent] at h
  | leave element => simp [Event.isContent] at h
  | _ => rfl

theorem isRunning_enter (tag : Tag)
    : (Event.enter tag).isRunning = (!tag.isNote && !tag.isTablePart) := by
  cases tag <;> rfl

theorem isRunning_leave (tag : Tag)
    : (Event.leave tag.element).isRunning = (!tag.isNote && !tag.isTablePart) := by
  cases tag <;> rfl

theorem Running.forall_isRunning {events : List Event} (h : Running events)
    : ∀ event ∈ events, event.isRunning := by
  induction h with
  | nil => simp
  | content hcontent _ ih =>
    rw [List.forall_mem_cons]
    exact ⟨isRunning_of_isContent hcontent, ih⟩
  | @part tag inner rest hnote hpart _ _ ihInner ihRest =>
    rw [List.cons_append, List.forall_mem_cons, List.forall_mem_append, List.forall_mem_cons]
    rw [isRunning_enter, isRunning_leave, hnote, hpart]
    exact ⟨rfl, ihInner, rfl, ihRest⟩

theorem Running.keepsNotes {events : List Event} (h : Running events) : KeepsNotes events := by
  induction h with
  | nil => exact fun parts => ⟨rfl, rfl⟩
  | content hcontent _ ih =>
    intro parts
    rw [List.foldl_cons, notesWholeFrom, read_of_isContent hcontent]
    rw [cutsNothing_of_isContent hcontent]
    exact ih parts
  | part hnote _ _ _ ihInner ihRest => exact ihInner.part _ hnote ihRest

theorem Cells.keepsNotes {events : List Event} (h : Cells events) : KeepsNotes events := by
  induction h with
  | nil => exact fun parts => ⟨rfl, rfl⟩
  | cell hinner _ ih => exact hinner.keepsNotes.part .tableCell rfl ih

theorem Rows.keepsNotes {events : List Event} (h : Rows events) : KeepsNotes events := by
  induction h with
  | nil => exact fun parts => ⟨rfl, rfl⟩
  | row hcells _ ih => exact hcells.keepsNotes.part .tableRow rfl ih

end DirectedMarkdown.Markdown
