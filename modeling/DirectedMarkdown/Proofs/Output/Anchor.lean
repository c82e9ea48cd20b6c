import DirectedMarkdown.Proofs.Footnote.Assembly
import DirectedMarkdown.Proofs.Html.Anchor
import DirectedMarkdown.Proofs.Output.Governed
import DirectedMarkdown.Proofs.Output.Place
import DirectedMarkdown.Proofs.Output.Sheet

/-!
This module contains the anchors of an output: those of links, of bare URLs, of references to
footnotes and of the links back from them. None of them is opened in another one. Where a paragraph
ends no anchor is open, so that the links back of a note can be put in there.
-/

namespace DirectedMarkdown

open Markdown (Admitted Element Event Tag WellNested everywhere openParts)

namespace Side

/--
Whether an anchor is open behind a side. No anchor is opened where one is open, and no paragraph
ends there.
-/
def anchorStep (isOpen : Bool) (side : Side) : Option Bool :=
  if side = .opens (.element "a") then
    if isOpen then none else some true
  else if side = .closes (.element "a") then
    if isOpen then some false else none
  else if side = .closes (.part .paragraph) then
    if isOpen then none else some false
  else
    some isOpen

def anchorRun (isOpen : Bool) : List Side → Option Bool
  | [] => some isOpen
  | side :: rest => (anchorStep isOpen side).bind fun next => anchorRun next rest

section

variable {isOpen next : Bool} {sides : List Side}

theorem anchorRun_append (isOpen : Bool) (xs ys : List Side)
    : anchorRun isOpen (xs ++ ys) = (anchorRun isOpen xs).bind fun next => anchorRun next ys := by
  induction xs generalizing isOpen with
  | nil => rfl
  | cons x xs ih =>
    rw [List.cons_append, anchorRun, anchorRun]
    cases anchorStep isOpen x with
    | none => rfl
    | some next => exact ih next

theorem anchorRun_append_of_eq (h : anchorRun isOpen sides = some next) (rest : List Side)
    : anchorRun isOpen (sides ++ rest) = anchorRun next rest := by
  rw [anchorRun_append, h]
  rfl

theorem anchorRun_eq_of_forall (h : ∀ side ∈ sides, ∀ isOpen, anchorStep isOpen side = some isOpen)
    (isOpen : Bool) : anchorRun isOpen sides = some isOpen := by
  induction sides with
  | nil => rfl
  | cons side rest ih =>
    rw [List.forall_mem_cons] at h
    rw [anchorRun, h.1, Option.bind_some, ih h.2]

theorem anchorRun_flatMap {α : Type} {f : α → List Side} {items : List α}
    (h : ∀ item ∈ items, anchorRun isOpen (f item) = some isOpen)
    : anchorRun isOpen (items.flatMap f) = some isOpen := by
  induction items with
  | nil => rfl
  | cons item rest ih =>
    rw [List.forall_mem_cons] at h
    rw [List.flatMap_cons, anchorRun_append_of_eq h.1, ih h.2]

/-- An element with nothing but text in it is no anchor where one is open. -/
theorem anchorRun_pair {name : String} (h : name = "a" → isOpen = false)
    : anchorRun isOpen (pair name) = some isOpen := by
  by_cases hname : name = "a"
  . rw [hname, h hname]
    rfl
  . apply anchorRun_eq_of_forall
    simp [pair, anchorStep, hname]

/-- Anchors that are not opened in one another open and close in turn. -/
theorem exists_replicate_of_anchorRun (h : anchorRun isOpen sides = some false)
    : ∃ count, sides.filter isAnchor
        = (if isOpen then [.closes (.element "a")] else [])
          ++ (List.replicate count (pair "a")).flatten := by
  induction sides generalizing isOpen with
  | nil =>
    obtain rfl : isOpen = false := by simpa [anchorRun] using h
    exact ⟨0, rfl⟩
  | cons side rest ih =>
    rw [anchorRun, Option.bind_eq_some_iff] at h
    obtain ⟨next, hstep, hrest⟩ := h
    obtain ⟨count, hcount⟩ := ih hrest
    rw [List.filter_cons, hcount]
    unfold anchorStep at hstep
    split at hstep
    . next heq =>
      cases isOpen with
      | true => simp at hstep
      | false =>
        obtain rfl : next = true := by simpa using hstep.symm
        refine ⟨count + 1, ?_⟩
        rw [heq]
        rfl
    . split at hstep
      . next heq =>
        cases isOpen with
        | false => simp at hstep
        | true =>
          obtain rfl : next = false := by simpa using hstep.symm
          refine ⟨count, ?_⟩
          rw [heq]
          rfl
      . next hopens hcloses =>
        have hside : side.isAnchor = false := by
          cases side with
          | opens bracket => cases bracket <;> simp_all [isAnchor]
          | closes bracket => cases bracket <;> simp_all [isAnchor]
        obtain rfl : next = isOpen := by
          split at hstep
          . cases isOpen <;> simp_all
          . simpa using hstep.symm
        refine ⟨count, ?_⟩
        rw [hside]
        rfl

end

end Side

namespace Styling

variable {style : Style} {state : Styling} {event : Event} {events : List Event} {outer : List Tag}

theorem anchorRun_opening {tag : Tag} (htag : tag.isLink = false) {cell : String}
    (hcell : cell ≠ "a") (isOpen : Bool)
    : Side.anchorRun isOpen (tag.opening cell) = some isOpen := by
  apply Side.anchorRun_eq_of_forall
  cases tag <;> simp_all [Tag.opening, Side.anchorStep, Tag.isLink]

theorem anchorRun_closing {element : Element} (hlink : element ≠ .link)
    (hparagraph : element ≠ .paragraph) {cell : String} (hcell : cell ≠ "a") (isOpen : Bool)
    : Side.anchorRun isOpen (element.closing cell) = some isOpen := by
  apply Side.anchorRun_eq_of_forall
  cases element <;> simp_all [Element.closing, Side.anchorStep]

theorem cellName_ne (table : TableState) : table.cellName ≠ "a" := by
  unfold TableState.cellName
  split <;> simp

theorem anchorRun_enter (h : Situated outer state) {tag : Tag}
    (hadmitted : (Event.enter tag).isAdmitted outer)
    : Side.anchorRun (0 < state.linkDepth) (visitSides style state (.enter tag))
        = some (decide (0 < (state.visit style (.enter tag)).linkDepth)) := by
  rw [(depths_visit style state (.enter tag)).1]
  cases tag with
  | link kind url title =>
    rw [h.linkDepth_eq_zero hadmitted rfl]
    rfl
  | _ =>
    dsimp only [visitSides]
    apply anchorRun_opening
    . rfl
    . exact cellName_ne state.table

theorem anchorRun_leave (h : Situated outer state) (himage : state.image = none) {element : Element}
    (hcloses : (Event.leave element).closes outer)
    : Side.anchorRun (0 < state.linkDepth) (visitSides style state (.leave element))
        = some (decide (0 < (state.visit style (.leave element)).linkDepth)) := by
  obtain ⟨tag, rest, rfl, rfl⟩ := Event.opened_of_closes hcloses
  rw [(depths_visit style state (.leave tag.element)).1]
  cases tag with
  | link kind url title =>
    rw [h.linkDepth_of_cons himage rfl]
    rfl
  | paragraph =>
    dsimp only [Tag.element]
    rw [h.linkDepth_of_cons himage rfl]
    rfl
  | _ =>
    dsimp only [visitSides, Tag.element]
    apply anchorRun_closing
    . simp
    . simp
    . exact cellName_ne state.table

theorem anchorRun_visitSides (h : Situated outer state) (himage : state.image = none)
    (hcloses : event.closes outer) (hadmitted : event.isAdmitted outer)
    : Side.anchorRun (0 < state.linkDepth) (visitSides style state event)
        = some (decide (0 < (state.visit style event).linkDepth)) := by
  cases event with
  | enter tag => exact anchorRun_enter h hadmitted
  | leave element => exact anchorRun_leave h himage hcloses
  | text content =>
    obtain ⟨names, hnames, hall⟩ := textSides_eq style state content
    rw [(depths_visit style state (.text content)).1, visitSides, hnames]
    apply Side.anchorRun_flatMap
    intro name hname
    apply Side.anchorRun_pair
    intro heq
    have hdepth := (hall name hname).resolve_left (by simp [heq])
    simp [hdepth.2]
  | footnoteReference label =>
    rw [(depths_visit style state (.footnoteReference label)).1]
    dsimp only
    rw [h.linkDepth_eq_zero hadmitted rfl]
    rfl
  | _ =>
    rw [(depths_visit style state _).1]
    rfl

theorem anchorRun_emission (h : Situated outer state) (hcloses : event.closes outer)
    (hadmitted : event.isAdmitted outer)
    : Side.anchorRun (0 < state.linkDepth) ((emission style state event).flatMap Output.sides)
        = some (decide (0 < (step style state event).linkDepth)) := by
  unfold step
  cases himage : state.image with
  | some image =>
    rw [sides_emission_of_image_some style state himage, Side.anchorRun]
    dsimp only
    rw [(depths_collect style state image event).1]
  | none =>
    rw [sides_emission_of_image_none style state himage]
    exact anchorRun_visitSides h himage hcloses hadmitted

/--
The state of a document where an anchor is open on the page that is being written, if a link is, and
none is open on other pages.
-/
structure Anchored (state : Styling) : Prop where
  definitions : ∀ page ∈ state.footnotes.definitions,
    Side.anchorRun false (page.2.flatMap Output.sides) = some false
  sheets :
    match state.footnotes.current with
    | none => Side.anchorRun false (state.output.toList.flatMap Output.sides)
        = some (decide (0 < state.linkDepth))
    | some page => Side.anchorRun false (page.2.toList.flatMap Output.sides)
        = some (decide (0 < state.linkDepth))
      ∧ Side.anchorRun false (state.output.toList.flatMap Output.sides) = some false

theorem anchored_start : Anchored start :=
  ⟨by simp [start, Footnotes.empty], rfl⟩

namespace Anchored

theorem add {next : Styling} {steps : List Output} (h : Anchored state)
    (hadds : state.Adds next steps)
    (hrun : Side.anchorRun (0 < state.linkDepth) (steps.flatMap Output.sides)
      = some (decide (0 < next.linkDepth)))
    : Anchored next where
  definitions := by
    rw [hadds.definitions]
    exact h.definitions
  sheets := by
    have hsheets := h.sheets
    cases hcurrent : state.footnotes.current with
    | none =>
      obtain ⟨hnext, houtput⟩ := hadds.outside hcurrent
      rw [hcurrent] at hsheets
      rw [hnext, houtput, List.flatMap_append]
      dsimp only at hsheets ⊢
      rw [Side.anchorRun_append_of_eq hsheets]
      exact hrun
    | some page =>
      obtain ⟨⟨after, hnext, hafter⟩, houtput⟩ := hadds.inside page.1 page.2 hcurrent
      rw [hcurrent] at hsheets
      rw [hnext, houtput]
      dsimp only at hsheets ⊢
      rw [hafter, List.flatMap_append, Side.anchorRun_append_of_eq hsheets.1]
      exact ⟨hrun, hsheets.2⟩

theorem enter_note (h : Anchored state) (himage : state.image = none) (hdepth : state.linkDepth = 0)
    (label : String) : Anchored (step style state (.enter (.footnoteDefinition label))) := by
  rw [step_enter_note style state label himage]
  refine ⟨h.definitions, ?_⟩
  have hsheets := h.sheets
  simp only [Footnotes.open, hdepth] at hsheets ⊢
  refine ⟨rfl, ?_⟩
  split at hsheets
  . exact hsheets
  . exact hsheets.2

theorem leave_note (h : Anchored state) (himage : state.image = none) (hdepth : state.linkDepth = 0)
    : Anchored (step style state (.leave .footnoteDefinition)) := by
  rw [step_leave_note style state himage]
  have hsheets := h.sheets
  unfold Footnotes.close
  split
  . next hcurrent => exact h
  . next label body hcurrent =>
    rw [hcurrent, hdepth] at hsheets
    constructor
    . dsimp only
      split
      . exact h.definitions
      . rw [List.forall_mem_append, List.forall_mem_singleton]
        exact ⟨h.definitions, hsheets.1⟩
    . dsimp only
      rw [hdepth]
      exact hsheets.2

theorem step (h : Anchored state) (hsituated : Situated outer state) (hcloses : event.closes outer)
    (hadmitted : event.isAdmitted outer) : Anchored (step style state event) := by
  cases hturns : state.turnsPage event with
  | false =>
    exact h.add (adds_emission style state event hturns)
      (anchorRun_emission hsituated hcloses hadmitted)
  | true =>
    unfold turnsPage at hturns
    split at hturns
    . next label =>
      have himage : state.image = none := by simpa using hturns
      exact h.enter_note himage (hsituated.linkDepth_eq_zero hadmitted rfl) label
    . have himage : state.image = none := by simpa using hturns
      obtain ⟨tag, rest, rfl, htag⟩ := Event.opened_of_closes hcloses
      have hdepth := hsituated.linkDepth_of_cons himage (by cases tag <;> simp_all [Tag.element]; rfl)
      rw [htag] at hdepth
      exact h.leave_note himage hdepth
    . simp at hturns

theorem foldl_step (h : Anchored state) (hsituated : Situated outer state)
    (hcloses : everywhere Event.closes outer events)
    (hadmitted : everywhere Event.isAdmitted outer events)
    : Anchored (events.foldl (Styling.step style) state) := by
  induction events generalizing outer state with
  | nil => exact h
  | cons event rest ih =>
    simp only [everywhere, Bool.and_eq_true] at hcloses hadmitted
    exact ih (h.step hsituated hcloses.1 hadmitted.1) (hsituated.step hcloses.1 hadmitted.1)
      hcloses.2 hadmitted.2

theorem pages (h : Anchored state) (hdepth : state.linkDepth = 0)
    : ∀ page ∈ state.footnotes.pages,
        Side.anchorRun false (page.2.flatMap Output.sides) = some false := by
  have hsheets := h.sheets
  rw [hdepth] at hsheets
  unfold Footnotes.pages
  rw [List.forall_mem_append]
  refine ⟨h.definitions, ?_⟩
  cases hcurrent : state.footnotes.current with
  | none => simp
  | some page =>
    rw [hcurrent] at hsheets
    simpa using hsheets.1

theorem output (h : Anchored state) (hdepth : state.linkDepth = 0)
    : Side.anchorRun false (state.output.toList.flatMap Output.sides) = some false := by
  have hsheets := h.sheets
  rw [hdepth] at hsheets
  split at hsheets
  . exact hsheets
  . exact hsheets.2

end Anchored

/-- Code is kept as it is, and in an image it is added to the alternative text as it is. -/
theorem step_code (h : Situated outer state) {content : String}
    (hevent : event = .code content ∨ event = .text content ∧ outer.any Tag.isCodeBlock)
    : (outer.any Tag.isImage = false →
          step style state event = state.push (.kept event)
            ∧ state.Adds (step style state event) [.kept event])
        ∧ ∀ image, state.image = some image →
          step style state event
            = { state with image := some { image with alt := image.alt ++ content } } := by
  constructor
  . intro hany
    have himage := image_eq_none_of_any h.images hany
    have hpush : step style state event = state.push (.kept event) := by
      rcases hevent with rfl | ⟨rfl, hcode⟩
      . simp [step, himage, visit, keep]
      . have helement : outer.any (·.element = .codeBlock) := by
          rw [List.any_eq_true] at hcode ⊢
          obtain ⟨tag, htag, hblock⟩ := hcode
          exact ⟨tag, htag, by cases tag <;> simp_all [Tag.isCodeBlock, Tag.element]⟩
        have hopen := h.inCode (Markdown.openOutside_pos helement hany)
        simp [step, himage, visit, text, hopen, keep]
    exact ⟨hpush, hpush ▸ state.adds_push (.kept event)⟩
  . intro image himage
    rcases hevent with rfl | ⟨rfl, _⟩ <;> simp [step, himage, collect]

end Styling

namespace Note

variable (directives : DirectiveSet)

theorem anchorRun_backlinks (label : String) (count : Nat)
    : Side.anchorRun false (Output.sides (.written (directives.backlinks label count)))
        = some false := by
  rw [directives.sides_backlinks]
  apply Side.anchorRun_flatMap
  exact fun _ _ => rfl

/-- Where the links back are put in, no anchor of the note is open. -/
theorem anchorRun_around {body front back : List Output} (hparted : Parted body front back)
    (h : Side.anchorRun false (body.flatMap Output.sides) = some false)
    : Side.anchorRun false (front.flatMap Output.sides) = some false
        ∧ Side.anchorRun false (back.flatMap Output.sides) = some false := by
  cases hparted with
  | whole => exact ⟨h, rfl⟩
  | paragraph =>
    rw [List.flatMap_append, Side.anchorRun_append, Option.bind_eq_some_iff] at h
    obtain ⟨next, hfront, hback⟩ := h
    cases next with
    | false => exact ⟨hfront, hback⟩
    | true => simp [Output.sides, Side.anchorRun, Side.anchorStep] at hback

theorem anchorRun_item {note : Note}
    (h : Side.anchorRun false (note.body.flatMap Output.sides) = some false)
    : Side.anchorRun false ((note.item directives).flatMap Output.sides) = some false := by
  obtain ⟨front, back, hparted, hitem⟩ := note.item_eq directives
  obtain ⟨hfront, hback⟩ := anchorRun_around hparted h
  have hbacklinks := anchorRun_backlinks directives note.label note.count
  rw [hitem, List.flatMap_append, List.flatMap_append, List.flatMap_cons, List.flatMap_cons]
  rw [List.append_assoc, List.append_assoc, Side.anchorRun_append_of_eq rfl]
  rw [Side.anchorRun_append_of_eq hfront, List.append_assoc]
  rw [Side.anchorRun_append_of_eq hbacklinks, Side.anchorRun_append_of_eq hback]
  rfl

theorem anchorRun_list {notes : List Note}
    (h : ∀ note ∈ notes, Side.anchorRun false (note.body.flatMap Output.sides) = some false)
    : Side.anchorRun false ((list directives notes).flatMap Output.sides) = some false := by
  have hitems : Side.anchorRun false ((notes.flatMap (item directives)).flatMap Output.sides)
      = some false := by
    rw [List.flatMap_assoc]
    exact Side.anchorRun_flatMap fun note hnote => anchorRun_item directives (h note hnote)
  unfold list
  split
  . rfl
  . rw [List.flatMap_append, List.flatMap_cons, List.append_assoc, Side.anchorRun_append_of_eq rfl]
    rw [Side.anchorRun_append_of_eq hitems]
    rfl

end Note

/-- What opens and closes anchors in what is written, read piece by piece. -/
def Output.anchors (output : List Output) : List Side :=
  output.flatMap fun
    | kept _ => []
    | written pieces => pieces.flatMap fun piece => Html.anchors piece.render

theorem Output.anchors_eq {directives : DirectiveSet} {output : List Output}
    (hgoverned : ∀ step ∈ output, step.Governed directives)
    (hraw : ∀ content, directives.IsRaw content → Html.anchors content = [])
    : anchors output = (output.flatMap sides).filter Side.isAnchor := by
  unfold anchors
  rw [List.filter_flatMap]
  apply List.flatMap_congr
  intro step hstep
  cases hgoverned step hstep with
  | @kept event _ => cases event <;> rfl
  | @written pieces hissued =>
    dsimp only [sides]
    rw [List.filterMap_eq_flatMap_toList, List.filter_flatMap]
    apply List.flatMap_congr
    intro piece hpiece
    exact (hissued piece hpiece).anchors_render hraw

/-- Anchors are not opened in one another, and code is not decorated. -/
structure AnchorsApart (style : Style) (events : List Event) : Prop where
  /-- Each anchor of the output, in the list of notes as well, is closed before the next is opened. -/
  turns : ∃ count, ((style.apply events).flatMap Output.sides).filter Side.isAnchor
    = (List.replicate count (Side.pair "a")).flatten
  /-- The tags that are found are those of the anchors, if no configured HTML has any in it. -/
  found : (∀ content, style.directives.IsRaw content → Html.anchors content = []) →
    Output.anchors (style.apply events)
      = ((style.apply events).flatMap Output.sides).filter Side.isAnchor
  /-- Code is kept as it is, and in an image it is added to the alternative text as it is. -/
  code : ∀ before event after content, events = before ++ event :: after →
    event = .code content ∨ event = .text content ∧ (openParts before).any Tag.isCodeBlock →
      let state := before.foldl (Styling.step style) .start
      ((openParts before).any Tag.isImage = false →
          Styling.step style state event = state.push (.kept event)
            ∧ state.Adds (Styling.step style state event) [.kept event])
        ∧ ∀ image, state.image = some image →
          Styling.step style state event
            = { state with image := some { image with alt := image.alt ++ content } }

section

variable (style : Style) {events : List Event}

theorem Style.anchorRun_apply (hnested : WellNested events) (hadmitted : Admitted events)
    : Side.anchorRun false ((style.apply events).flatMap Output.sides) = some false := by
  have hcloses := hnested.everywhere_closes []
  have hanchored : Styling.Anchored (events.foldl (Styling.step style) .start) :=
    Styling.anchored_start.foldl_step Styling.situated_start hcloses hadmitted
  have hdepth : (events.foldl (Styling.step style) .start).linkDepth = 0 := by
    have hplaced := Styling.placed_start.foldl_step style hcloses
    rw [hnested.foldl_opened] at hplaced
    exact hplaced.links
  unfold Style.apply Styling.finish
  rw [List.flatMap_append, Side.anchorRun_append_of_eq (hanchored.output hdepth)]
  apply Note.anchorRun_list
  intro note hnote
  obtain ⟨label, hpage⟩ := Footnotes.exists_page_of_mem_notes hnote
  exact hanchored.pages hdepth _ hpage

theorem anchors_apart (hnested : WellNested events) (hadmitted : Admitted events)
    : AnchorsApart style events where
  turns := Side.exists_replicate_of_anchorRun (style.anchorRun_apply hnested hadmitted)
  found := Output.anchors_eq (style.governed_apply hnested)
  code := by
    intro before event after content hevents hcode
    have hcloses := hnested.everywhere_closes []
    unfold Admitted at hadmitted
    rw [hevents, Markdown.everywhere_append, Bool.and_eq_true] at hcloses hadmitted
    exact Styling.step_code (Styling.situated_start.foldl_step style hcloses.1 hadmitted.1) hcode

end

/-- A link around an image, a bare URL, a note that is referred to twice, and a URL in code. -/
theorem anchors_apart_mixed
    : let events : List Event :=
        [.enter .paragraph, .enter (.link .regular "a" ""), .enter .emphasis,
          .text "https://b.example", .leave .emphasis, .enter (.image "i" ""), .text "x",
          .leave .image, .leave .link, .text "https://c.example", .footnoteReference "n",
          .footnoteReference "n", .code "https://d.example", .leave .paragraph,
          .enter (.codeBlock .indented), .text "https://e.example", .leave .codeBlock,
          .enter (.footnoteDefinition "n"), .enter .paragraph, .enter (.link .regular "f" ""),
          .text "y", .leave .link, .leave .paragraph, .leave .footnoteDefinition]
      (WellNested events ∧ Admitted events) ∧ AnchorsApart .initial events
        ∧ Output.anchors (Style.initial.apply events)
          = (List.replicate 7 (Side.pair "a")).flatten := by
  intro events
  have hlink : WellNested
      [.enter .emphasis, .text "https://b.example", .leave .emphasis, .enter (.image "i" ""),
        .text "x", .leave .image] := by
    apply @WellNested.part .emphasis [.text "https://b.example"] _ (.content rfl .nil)
    exact @WellNested.part (.image "i" "") [.text "x"] [] (.content rfl .nil) .nil
  have hparagraph : WellNested
      [.enter (.link .regular "a" ""), .enter .emphasis, .text "https://b.example",
        .leave .emphasis, .enter (.image "i" ""), .text "x", .leave .image, .leave .link,
        .text "https://c.example", .footnoteReference "n", .footnoteReference "n",
        .code "https://d.example"] := by
    apply @WellNested.part (.link .regular "a" "") _ _ hlink
    exact .content rfl (.content rfl (.content rfl (.content rfl .nil)))
  have hnote : WellNested
      [.enter .paragraph, .enter (.link .regular "f" ""), .text "y", .leave .link,
        .leave .paragraph] := by
    apply @WellNested.part .paragraph [.enter (.link .regular "f" ""), .text "y", .leave .link] []
    . exact @WellNested.part (.link .regular "f" "") [.text "y"] [] (.content rfl .nil) .nil
    . exact .nil
  have hnested : WellNested events := by
    apply @WellNested.part .paragraph _ _ hparagraph
    apply @WellNested.part (.codeBlock .indented) [.text "https://e.example"]
    . exact .content rfl .nil
    . exact @WellNested.part (.footnoteDefinition "n") _ [] hnote .nil
  have hadmitted : Admitted events := by decide
  refine ⟨⟨hnested, hadmitted⟩, anchors_apart .initial hnested hadmitted, ?_⟩
  decide +kernel

end DirectedMarkdown
