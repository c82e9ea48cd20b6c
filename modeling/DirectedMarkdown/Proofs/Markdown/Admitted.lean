import DirectedMarkdown.Proofs.Markdown.OpenPart

/-!
This module contains the documents where links and code blocks hold only what they may hold: in a
link there are no blocks, no other links and no references to footnotes, and in a code block there is
nothing but text.
-/

namespace DirectedMarkdown.Markdown

namespace Tag

/-- Whether the part is a part of running text. -/
def isInline : Tag → Bool
  | emphasis | strong | strikethrough | link _ _ _ | image _ _ => true
  | _ => false

def isLink : Tag → Bool
  | link _ _ _ => true
  | _ => false

def isCodeBlock : Tag → Bool
  | codeBlock _ => true
  | _ => false

end Tag

namespace Event

/-- Whether the event may stand in a link. -/
def standsInLink : Event → Bool
  | enter tag => tag.isInline && !tag.isLink
  | footnoteReference _ => false
  | _ => true

/-- Whether the event may stand in a code block. Its own end counts as standing in it. -/
def standsInCode : Event → Bool
  | text _ | leave _ => true
  | _ => false

end Event

/-- Whether an event may stand in the part, at any depth. -/
def Tag.admits (tag : Tag) (event : Event) : Bool :=
  (!tag.isLink || event.standsInLink) && (!tag.isCodeBlock || event.standsInCode)

/-- Whether all open parts admit the event. -/
def Event.isAdmitted (outer : List Tag) (event : Event) : Bool :=
  outer.all (·.admits event)

/-- Each event is admitted by the parts that it stands in. -/
def Admitted (events : List Event) : Prop :=
  everywhere Event.isAdmitted [] events

instance (events : List Event) : Decidable (Admitted events) :=
  inferInstanceAs (Decidable (_ = true))

/-- Each open part is admitted by those that it stands in. -/
def PartsAdmitted (outer : List Tag) : Prop :=
  outer.Pairwise fun inner tag => tag.admits (.enter inner)

theorem partsAdmitted_nil : PartsAdmitted [] :=
  List.Pairwise.nil

section

variable {outer : List Tag} {tag : Tag} {event : Event} {events : List Event}

theorem partsAdmitted_cons
    : PartsAdmitted (tag :: outer) ↔ (Event.enter tag).isAdmitted outer ∧ PartsAdmitted outer := by
  unfold PartsAdmitted Event.isAdmitted
  rw [List.pairwise_cons, List.all_eq_true]

theorem PartsAdmitted.opened (h : PartsAdmitted outer) (hadmitted : event.isAdmitted outer)
    : PartsAdmitted (event.opened outer) := by
  cases event with
  | enter tag => exact partsAdmitted_cons.mpr ⟨hadmitted, h⟩
  | leave element => exact h.sublist (List.tail_sublist outer)
  | _ => exact h

theorem openOutside_eq_zero {element : Element} (h : ∀ tag ∈ outer, tag.element ≠ element)
    : openOutside element outer = 0 := by
  induction outer with
  | nil => rfl
  | cons tag outer ih =>
    rw [List.forall_mem_cons] at h
    rw [openOutside, ih h.2, if_neg (fun heq => h.1 heq.1)]

/-- No link is open where something stands that may not stand in links. -/
theorem openOutside_link_eq_zero (h : event.isAdmitted outer) (hevent : event.standsInLink = false)
    : openOutside .link outer = 0 := by
  apply openOutside_eq_zero
  intro tag htag heq
  have hadmits := List.all_eq_true.mp h tag htag
  have hlink : tag.isLink := by cases tag <;> simp_all [Tag.element, Tag.isLink]
  simp [Tag.admits, hlink, hevent] at hadmits

theorem openOutside_codeBlock_eq_zero (h : event.isAdmitted outer)
    (hevent : event.standsInCode = false) : openOutside .codeBlock outer = 0 := by
  apply openOutside_eq_zero
  intro tag htag heq
  have hadmits := List.all_eq_true.mp h tag htag
  have hcode : tag.isCodeBlock := by cases tag <;> simp_all [Tag.element, Tag.isCodeBlock]
  simp [Tag.admits, hcode, hevent] at hadmits

/-- Behind a code block, none is open. -/
theorem openOutside_codeBlock_tail (h : PartsAdmitted outer)
    : openOutside .codeBlock outer.tail = 0 := by
  cases outer with
  | nil => rfl
  | cons tag outer => exact openOutside_codeBlock_eq_zero (partsAdmitted_cons.mp h).1 rfl

end

end DirectedMarkdown.Markdown
