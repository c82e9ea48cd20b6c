import DirectedMarkdown.Proofs.List.Append
import DirectedMarkdown.Proofs.Markdown.Formed
import DirectedMarkdown.Proofs.Output.EmissionSide
import DirectedMarkdown.Proofs.Output.OpenImage

/-!
This module contains the sheets that a document is written on: the output, and the footnote
definition that is being read. The brackets that are open on a sheet are those of the parts that
were started on it, unless a definition was given up in the middle of a part.
-/

namespace DirectedMarkdown

open Markdown (Element Event Tag)

/-- An open part of a document, and the brackets of it that are open in the output. -/
structure Frame where
  tag : Tag
  brackets : List Bracket
  brackets_eq_nil_iff : brackets = [] ↔ tag.isNote

namespace Frame

/-- The brackets that are open in the output, the innermost first. -/
def outline (frames : List Frame) : List Bracket :=
  frames.flatMap brackets

@[simp]
theorem outline_nil : outline [] = [] := rfl

@[simp]
theorem outline_cons (frame : Frame) (frames : List Frame)
    : outline (frame :: frames) = frame.brackets ++ outline frames := rfl

@[simp]
theorem outline_append (xs ys : List Frame) : outline (xs ++ ys) = outline xs ++ outline ys := by
  unfold outline
  apply List.flatMap_append

theorem outline_eq_nil_iff {frames : List Frame} (h : ∀ frame ∈ frames, frame.tag.isNote = false)
    : outline frames = [] ↔ frames = [] := by
  cases frames with
  | nil => simp
  | cons frame rest =>
    rw [List.forall_mem_cons] at h
    have := frame.brackets_eq_nil_iff
    simp_all

/-- Frames up to the innermost footnote definition are found in front of it. -/
theorem append_eq_append_note {xs rest inner below : List Frame} {note : Frame}
    (hxs : ∀ frame ∈ xs, frame.tag.isNote = false) (hnote : note.tag.isNote)
    (h : xs ++ rest = inner ++ note :: below)
    : ∃ between, inner = xs ++ between ∧ rest = between ++ note :: below := by
  apply exists_of_append_eq_append_cons _ h
  intro hmem
  rw [hxs note hmem] at hnote
  simp at hnote

end Frame

/-- A sheet where the brackets of some frames are open, if it is whole, and fewer, if it is not. -/
structure Bears (frames : List Frame) (whole : Bool) (sides : List Side) : Prop where
  run : whole = true → Side.run [] sides = some (Frame.outline frames)
  weights_lt : whole = false → Side.weights sides < (Frame.outline frames).length

namespace Bears

variable {xs ys rest inner below : List Frame} {note : Frame} {whole : Bool}
  {sides more : List Side}

theorem append (h : Bears (xs ++ rest) whole sides)
    (hrun : Side.run (Frame.outline xs) more = some (Frame.outline ys))
    : Bears (ys ++ rest) whole (sides ++ more) where
  run := by
    intro hwhole
    rw [Side.run_append_of_eq (h.run hwhole), Frame.outline_append, Frame.outline_append]
    exact Side.run_append_stack hrun _
  weights_lt := by
    intro hwhole
    have hlt := h.weights_lt hwhole
    have hlength := Side.length_of_run hrun
    rw [Side.weights_append]
    simp only [Frame.outline_append, List.length_append] at hlt ⊢
    omega

/-- What is written on a sheet beside this one is lost with it. -/
theorem cover (h : Bears below whole sides) (hnote : note.tag.isNote)
    (hinner : ∀ frame ∈ inner, frame.tag.isNote = false)
    : Bears (inner ++ note :: below) (whole && inner.isEmpty) sides := by
  have hbrackets := note.brackets_eq_nil_iff.mpr hnote
  constructor
  . intro hwhole
    simp only [Bool.and_eq_true, List.isEmpty_iff] at hwhole
    rw [hwhole.2, List.nil_append, Frame.outline_cons, hbrackets]
    exact h.run hwhole.1
  . intro hwhole
    rw [Frame.outline_append, Frame.outline_cons, hbrackets, List.nil_append, List.length_append]
    rw [Bool.and_eq_false_iff] at hwhole
    cases h' : whole with
    | false =>
      have := h.weights_lt h'
      omega
    | true =>
      -- Nothing of `inner` is on this sheet, and all of it would have to be.
      have hne : Frame.outline inner ≠ [] := by
        rw [ne_eq, Frame.outline_eq_nil_iff hinner]
        simpa [h'] using hwhole
      have hpos := List.length_pos_iff.mpr hne
      have hlength := Side.length_of_run (h.run h')
      simp only [List.length_nil, Int.natCast_zero] at hlength
      omega

end Bears

/-- The second state is the first with some steps added to the sheet that is being written on. -/
structure Styling.Adds (state next : Styling) (steps : List Output) : Prop where
  definitions : next.footnotes.definitions = state.footnotes.definitions
  outside : state.footnotes.current = none →
    next.footnotes.current = none ∧ next.output.toList = state.output.toList ++ steps
  inside : ∀ label body, state.footnotes.current = some (label, body) →
    (∃ after, next.footnotes.current = some (label, after) ∧ after.toList = body.toList ++ steps)
      ∧ next.output = state.output

section Adds

variable {state middle next : Styling} {steps more : List Output}

theorem Styling.Adds.refl (state : Styling) : state.Adds state [] where
  definitions := rfl
  outside hcurrent := ⟨hcurrent, by simp⟩
  inside label body hcurrent := ⟨⟨body, hcurrent, by simp⟩, rfl⟩

theorem Styling.Adds.trans (h : state.Adds middle steps) (hmore : middle.Adds next more)
    : state.Adds next (steps ++ more) where
  definitions := hmore.definitions.trans h.definitions
  outside := by
    intro hcurrent
    obtain ⟨hmiddle, houtput⟩ := h.outside hcurrent
    obtain ⟨hnext, hlast⟩ := hmore.outside hmiddle
    exact ⟨hnext, by rw [hlast, houtput, List.append_assoc]⟩
  inside := by
    intro label body hcurrent
    obtain ⟨⟨after, hmiddle, hafter⟩, houtput⟩ := h.inside label body hcurrent
    obtain ⟨⟨last, hnext, hlast⟩, hsame⟩ := hmore.inside label after hmiddle
    exact ⟨⟨last, hnext, by rw [hlast, hafter, List.append_assoc]⟩, hsame.trans houtput⟩

end Adds

theorem Styling.adds_push (state : Styling) (step : Output)
    : state.Adds (state.push step) [step] := by
  unfold push
  split
  . next label body hcurrent =>
    refine ⟨rfl, by simp [hcurrent], ?_⟩
    intro other before hother
    rw [hcurrent, Option.some.injEq, Prod.mk.injEq] at hother
    obtain ⟨rfl, rfl⟩ := hother
    exact ⟨⟨body.push step, rfl, by simp⟩, rfl⟩
  . next hcurrent => exact ⟨rfl, fun _ => ⟨hcurrent, by simp⟩, by simp [hcurrent]⟩

theorem Styling.adds_emission (style : Style) (state : Styling) (event : Event)
    (hturns : state.turnsPage event = false)
    : state.Adds (step style state event) (emission style state event) where
  definitions := by
    cases hcurrent : state.footnotes.current with
    | none => exact (step_of_current_none style state hturns hcurrent).2.2
    | some page => exact (step_of_current_some style state hturns hcurrent).2.2
  outside := by
    intro hcurrent
    obtain ⟨houtput, hnext, _⟩ := step_of_current_none style state hturns hcurrent
    exact ⟨hnext, by simp [houtput]⟩
  inside := by
    intro label body hcurrent
    obtain ⟨houtput, hnext, _⟩ := step_of_current_some style state hturns hcurrent
    exact ⟨⟨_, hnext, by simp⟩, houtput⟩

open Output in
/--
The state of a document where these frames are open. `parts` are those of the definition that is
being read, and `whole` says that no definition was given up in the middle of a part.
-/
structure Drawn (frames : List Frame) (parts : Option (List Tag)) (whole : Bool)
    (state : Styling) : Prop where
  image : state.image = none
  definitions : ∀ page ∈ state.footnotes.definitions, Side.Balanced (page.2.flatMap sides)
  sheets :
    match state.footnotes.current with
    | none => parts = none ∧ Bears frames whole (state.output.toList.flatMap sides)
    | some page => ∃ inner note below,
      frames = inner ++ note :: below
        ∧ note.tag.isNote
        ∧ (∀ frame ∈ inner, frame.tag.isNote = false)
        ∧ parts = some (inner.map Frame.tag)
        ∧ Side.run [] (page.2.toList.flatMap sides) = some (Frame.outline inner)
        ∧ Bears below whole (state.output.toList.flatMap sides)

namespace Drawn

theorem start : Drawn [] none true .start where
  image := rfl
  definitions := by simp [Styling.start, Footnotes.empty]
  sheets := by
    refine ⟨rfl, ?_, ?_⟩
    . intro _
      rfl
    . simp

variable (style : Style) {state next : Styling} {rest frames : List Frame}
  {parts : Option (List Tag)} {whole : Bool} {event : Event}

/-- What is written closes the frames `xs` and opens the frames `ys`. -/
theorem advance (xs ys : List Frame) (h : Drawn (xs ++ rest) parts whole state)
    (hxs : ∀ frame ∈ xs, frame.tag.isNote = false)
    (hys : ∀ frame ∈ ys, frame.tag.isNote = false)
    {steps : List Output} (hadds : state.Adds next steps) (himage : next.image = none)
    (hrun : Side.run (Frame.outline xs) (steps.flatMap Output.sides) = some (Frame.outline ys))
    (opened : List Tag → List Tag)
    (hopened : ∀ outer, opened (xs.map Frame.tag ++ outer) = ys.map Frame.tag ++ outer)
    : Drawn (ys ++ rest) (parts.map opened) whole next where
  image := himage
  definitions := by
    rw [hadds.definitions]
    exact h.definitions
  sheets := by
    have hsheets := h.sheets
    cases hcurrent : state.footnotes.current with
    | none =>
      obtain ⟨hnext, houtput⟩ := hadds.outside hcurrent
      rw [hcurrent] at hsheets
      obtain ⟨hparts, hbears⟩ := hsheets
      rw [hnext, houtput, List.flatMap_append]
      exact ⟨by rw [hparts]; rfl, hbears.append hrun⟩
    | some page =>
      obtain ⟨⟨after, hnext, hafter⟩, houtput⟩ := hadds.inside page.1 page.2 hcurrent
      rw [hcurrent] at hsheets
      obtain ⟨inner, note, below, hframes, hnote, hinner, hparts, hpage, hbears⟩ := hsheets
      -- None of `xs` is a definition, so that all of them stand on its sheet.
      obtain ⟨between, rfl, rfl⟩ := Frame.append_eq_append_note hxs hnote hframes
      rw [hnext, houtput]
      refine ⟨ys ++ between, note, below, by simp, hnote, ?_, ?_, ?_, hbears⟩
      . rw [List.forall_mem_append] at hinner ⊢
        exact ⟨hys, hinner.2⟩
      . rw [hparts, Option.map_some, List.map_append, hopened, ← List.map_append]
      . dsimp only
        rw [hafter, List.flatMap_append, Side.run_append_of_eq hpage]
        rw [Frame.outline_append, Frame.outline_append]
        exact Side.run_append_stack hrun _

theorem step (xs ys : List Frame) (event : Event) (h : Drawn (xs ++ rest) parts whole state)
    (hxs : ∀ frame ∈ xs, frame.tag.isNote = false)
    (hys : ∀ frame ∈ ys, frame.tag.isNote = false)
    (hturns : state.turnsPage event = false)
    (himage : ∀ url title, event ≠ .enter (.image url title))
    (hrun : Side.run (Frame.outline xs) (Styling.visitSides style state event)
      = some (Frame.outline ys))
    (hopened : ∀ outer, event.opened (xs.map Frame.tag ++ outer) = ys.map Frame.tag ++ outer)
    : Drawn (ys ++ rest) (event.read parts) whole (Styling.step style state event) := by
  have hread : event.read parts = parts.map event.opened := by
    unfold Event.read
    unfold Styling.turnsPage at hturns
    split <;> simp_all [h.image]
  rw [hread]
  apply h.advance xs ys hxs hys (Styling.adds_emission style state event hturns) _ _ _ hopened
  . rw [← Styling.openImages_eq_zero_iff]
    unfold Styling.step
    rw [h.image]
    dsimp only
    rw [Styling.openImages_visit style state event h.image]
    split
    . next url title => exact absurd rfl (himage url title)
    . rfl
  . rw [Styling.sides_emission_of_image_none style state h.image event]
    exact hrun

theorem enter_note (h : Drawn frames parts whole state) (note : Frame) {label : String}
    (htag : note.tag = .footnoteDefinition label)
    : Drawn (note :: frames) ((Event.enter note.tag).read parts)
        (whole && (Event.enter note.tag).cutsNothing parts)
        (Styling.step style state (.enter note.tag)) := by
  have hnote : note.tag.isNote := by rw [htag]; rfl
  rw [htag, Styling.step_enter_note style state label h.image]
  refine ⟨h.image, h.definitions, [], note, frames, rfl, hnote, by simp, rfl, rfl, ?_⟩
  have hsheets := h.sheets
  cases hcurrent : state.footnotes.current with
  | none =>
    rw [hcurrent] at hsheets
    obtain ⟨rfl, hbears⟩ := hsheets
    simpa [Event.cutsNothing] using hbears
  | some page =>
    rw [hcurrent] at hsheets
    obtain ⟨inner, other, below, rfl, hother, hinner, rfl, _, hbears⟩ := hsheets
    have hcover := hbears.cover hother hinner
    cases inner with
    | nil => simpa [Event.cutsNothing] using hcover
    | cons frame inner => simpa [Event.cutsNothing] using hcover

theorem leave_note {note : Frame} (h : Drawn (note :: rest) parts whole state)
    (hnote : note.tag.isNote)
    : Drawn rest none whole (Styling.step style state (.leave .footnoteDefinition)) := by
  rw [Styling.step_leave_note style state h.image]
  have hbrackets := note.brackets_eq_nil_iff.mpr hnote
  have hsheets := h.sheets
  cases hcurrent : state.footnotes.current with
  | none =>
    have hclose : state.footnotes.close = state.footnotes := by simp [Footnotes.close, hcurrent]
    rw [hcurrent] at hsheets
    obtain ⟨_, hbears⟩ := hsheets
    have houtline : Frame.outline (note :: rest) = Frame.outline rest := by simp [hbrackets]
    rw [hclose]
    refine ⟨h.image, h.definitions, ?_⟩
    simp only [hcurrent, true_and]
    exact ⟨houtline ▸ hbears.run, houtline ▸ hbears.weights_lt⟩
  | some page =>
    rw [hcurrent] at hsheets
    obtain ⟨inner, other, below, hframes, hother, hinner, _, hpage, hbears⟩ := hsheets
    -- The definition ends where no part of it is open, so all of it is set aside.
    obtain ⟨rfl, rfl⟩ : inner = [] ∧ rest = below := by
      cases inner with
      | nil =>
        simp only [List.nil_append, List.cons.injEq] at hframes
        exact ⟨rfl, hframes.2⟩
      | cons frame inner =>
        simp only [List.cons_append, List.cons.injEq] at hframes
        have := hinner frame (by simp)
        rw [← hframes.1, hnote] at this
        simp at this
    refine ⟨h.image, ?_, ?_⟩
    . unfold Footnotes.close
      rw [hcurrent]
      dsimp only
      split
      . exact h.definitions
      . rw [List.forall_mem_append]
        refine ⟨h.definitions, ?_⟩
        rw [List.forall_mem_singleton]
        exact hpage
    . simp only [Footnotes.close_current, true_and]
      exact hbears

end Drawn

end DirectedMarkdown
