import DirectedMarkdown.Markdown.Event

/-!
This module contains the parts of a document that are open at a place of its events, and properties
that hold at every event in view of the parts that are open there.
-/

namespace DirectedMarkdown.Markdown

namespace Tag

def isImage : Tag → Bool
  | image _ _ => true
  | _ => false

def isNote : Tag → Bool
  | footnoteDefinition _ => true
  | _ => false

theorem isImage_eq_element (tag : Tag) : tag.isImage = (tag.element == .image) := by
  cases tag <;> rfl

theorem isNote_eq_element (tag : Tag) : tag.isNote = (tag.element == .footnoteDefinition) := by
  cases tag <;> rfl

end Tag

namespace Event

/-- The parts that are open behind an event, the innermost first. -/
def opened (outer : List Tag) : Event → List Tag
  | enter tag => tag :: outer
  | leave _ => outer.tail
  | _ => outer

/-- Whether the event, if it ends a part, ends the innermost one. -/
def closes (outer : List Tag) : Event → Bool
  | leave element => outer.head?.map Tag.element == some element
  | _ => true

theorem opened_of_closes {outer : List Tag} {element : Element}
    (h : (Event.leave element).closes outer)
    : ∃ tag rest, outer = tag :: rest ∧ tag.element = element := by
  cases outer with
  | nil => simp [Event.closes] at h
  | cons tag rest =>
    refine ⟨tag, rest, rfl, ?_⟩
    simpa [Event.closes] using h

end Event

/-- The parts that are open behind some events of a document, the innermost first. -/
def openParts (before : List Event) : List Tag :=
  before.foldl Event.opened []

/-- The number of open parts of a kind that stand outside of images. -/
def openOutside (element : Element) : List Tag → Nat
  | [] => 0
  | tag :: outer =>
    (if tag.element = element ∧ outer.any Tag.isImage = false then 1 else 0)
      + openOutside element outer

theorem openOutside_pos {element : Element} {outer : List Tag}
    (helement : outer.any (·.element = element)) (himage : outer.any Tag.isImage = false)
    : 0 < openOutside element outer := by
  induction outer with
  | nil => simp at helement
  | cons tag outer ih =>
    rw [List.any_cons, Bool.or_eq_false_iff] at himage
    rw [openOutside]
    by_cases htag : tag.element = element
    . rw [if_pos ⟨htag, himage.2⟩]
      omega
    . have := ih (by simpa [htag] using helement) himage.2
      omega

theorem openOutside_opened (element : Element) {outer : List Tag} {event : Event}
    (himage : outer.any Tag.isImage = false) (hcloses : event.closes outer)
    : openOutside element (event.opened outer)
        = match event with
          | .enter tag => openOutside element outer + if tag.element = element then 1 else 0
          | .leave other => openOutside element outer - if other = element then 1 else 0
          | _ => openOutside element outer := by
  cases event with
  | enter tag => simp [Event.opened, openOutside, himage, Nat.add_comm]
  | leave other =>
    obtain ⟨tag, rest, rfl, htag⟩ := Event.opened_of_closes hcloses
    rw [List.any_cons, Bool.or_eq_false_iff] at himage
    simp [Event.opened, openOutside, htag, himage.2]
  | _ => rfl

/-- What happens in an image makes no difference outside of it. -/
theorem openOutside_opened_of_image {element : Element} (helement : element ≠ .image)
    {outer : List Tag} {event : Event} (himage : outer.any Tag.isImage)
    (hcloses : event.closes outer)
    : openOutside element (event.opened outer) = openOutside element outer := by
  cases event with
  | enter tag => simp [Event.opened, openOutside, himage]
  | leave other =>
    obtain ⟨tag, rest, rfl, htag⟩ := Event.opened_of_closes hcloses
    rw [Event.opened, List.tail_cons, openOutside, if_neg, Nat.zero_add]
    rintro ⟨heq, hrest⟩
    rw [List.any_cons, hrest, Bool.or_false, Tag.isImage_eq_element, beq_iff_eq, heq] at himage
    exact helement himage
  | _ => rfl

theorem foldl_part {α : Type} (f : α → Event → α) (start : α) (first last : Event)
    (inner rest : List Event)
    : (first :: inner ++ last :: rest).foldl f start
        = rest.foldl f (f (inner.foldl f (f start first)) last) := by
  rw [List.cons_append, List.foldl_cons, List.foldl_append, List.foldl_cons]

/-- Whether `p` holds at every event, given the parts that are open there. -/
def everywhere (p : List Tag → Event → Bool) (outer : List Tag) : List Event → Bool
  | [] => true
  | event :: rest => p outer event && everywhere p (event.opened outer) rest

theorem everywhere_append (p : List Tag → Event → Bool) (outer : List Tag) (xs ys : List Event)
    : everywhere p outer (xs ++ ys)
        = (everywhere p outer xs && everywhere p (xs.foldl Event.opened outer) ys) := by
  induction xs generalizing outer with
  | nil => simp [everywhere]
  | cons x xs ih => simp [everywhere, ih, Bool.and_assoc]

theorem everywhere_takeWhile {p : List Tag → Event → Bool} {outer : List Tag}
    {events : List Event} (h : everywhere p outer events) (q : Event → Bool)
    : everywhere p outer (events.takeWhile q) := by
  rw [← List.takeWhile_append_dropWhile (p := q) (l := events), everywhere_append] at h
  rw [Bool.and_eq_true] at h
  exact h.1

theorem opened_of_isContent {event : Event} (h : event.isContent) (outer : List Tag)
    : event.opened outer = outer := by
  cases event <;> simp_all [Event.opened, Event.isContent]

theorem closes_of_isContent {event : Event} (h : event.isContent) (outer : List Tag)
    : event.closes outer := by
  cases event <;> simp_all [Event.closes, Event.isContent]

namespace WellNested

theorem foldl_opened {events : List Event} (h : WellNested events) (outer : List Tag)
    : events.foldl Event.opened outer = outer := by
  induction h generalizing outer with
  | nil => rfl
  | content hcontent _ ih =>
    rw [List.foldl_cons]
    rw [opened_of_isContent hcontent]
    apply ih
  | part _ _ ihInner ihRest =>
    rw [foldl_part, ihInner]
    apply ihRest

theorem everywhere_closes {events : List Event} (h : WellNested events) (outer : List Tag)
    : everywhere Event.closes outer events := by
  induction h generalizing outer with
  | nil => rfl
  | content hcontent _ ih =>
    simp only [everywhere, Bool.and_eq_true]
    rw [opened_of_isContent hcontent]
    exact ⟨closes_of_isContent hcontent outer, ih outer⟩
  | part hinner _ ihInner ihRest =>
    rw [List.cons_append, everywhere, everywhere_append]
    simp only [everywhere, Bool.and_eq_true]
    rw [hinner.foldl_opened]
    refine ⟨rfl, ihInner _, ?_, ihRest _⟩
    simp [Event.closes, Event.opened]

end WellNested

end DirectedMarkdown.Markdown
