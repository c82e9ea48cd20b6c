import DirectedMarkdown.Proofs.Command.Request
import DirectedMarkdown.Proofs.Command.Write
import DirectedMarkdown.Proofs.Directive.Initial
import Mathlib.Data.List.Pairwise

/-!
This module contains the rendering of several files: every file gets the rendering that it gets
alone, and whether it gets one depends on nothing that is done for the other files.
-/

namespace DirectedMarkdown.Command

open Surroundings Session

variable {session : Session}

/--
A run of the program on several files that gets to their rendering: the directory is made, and the
configuration is compiled.
-/
structure Batch (session : Session) where
  arguments : List String
  setup : Setup
  inputs : List Path
  output : Option Path
  outDir : Path
  configuration : Configuration
  targets : List Path
  made : Session
  directives : DirectiveSet
  asked : Request.ofArguments arguments = .ok (.task (.render setup inputs output (some outDir)))
  loaded : (session.run (loadSetup setup).run).1 = .ok configuration
  ne_nil : inputs ≠ []
  apart : outputTargets outDir configuration.extension inputs = .ok targets
  readable : ∀ input ∈ inputs, ∃ text, session.tree.readFile session.directory input = .ok text
  making : session.run (createDirectories outDir) = (.ok (), made)
  compiled : compile configuration.snapshot = .ok directives

namespace Batch

variable (batch : Batch session)

/-- Where the rendering of a file goes. -/
def target (input : Path) : Path :=
  outputPath input batch.outDir batch.configuration.extension

/--
Why a file has no rendering: its text cannot be formatted, or the target cannot be written when the
directory has just been made.
-/
def failure? (input : Path) : Option String :=
  match format Engine.html (textOf session input) batch.configuration.snapshot with
  | .error e => some e.message
  | .ok html =>
    match batch.made.tree.writeFile session.directory (batch.target input) html with
    | .error e => some e.message
    | .ok _ => none

def failed : Nat :=
  (batch.inputs.filterMap batch.failure?).length

def rendered : Nat :=
  (batch.inputs.filter (batch.failure? · = none)).length

/-- The lines that are shown, before the failure of the run as a whole. -/
def lines : List String :=
  (batch.inputs.filterMap fun input => (batch.failure? input).map (warning input))
    ++ ["Rendered " ++ toString batch.rendered ++ " of " ++ toString batch.inputs.length
      ++ " files"]

def rendering (input : Path) : Rendering :=
  renderingOf session batch.configuration batch.directives batch.outDir input

theorem rendered_add_failed : batch.rendered + batch.failed = batch.inputs.length := by
  have hsome : ∀ input, (batch.failure? input).isSome = !decide (batch.failure? input = none) := by
    intro input
    cases batch.failure? input <;> rfl
  unfold rendered failed
  rw [← List.countP_eq_length_filter, List.length_filterMap_eq_countP,
    List.length_eq_countP_add_countP (fun input => decide (batch.failure? input = none))]
  simp [hsome]

theorem making_made : session.Making batch.made := by
  have := makes_createDirectories batch.outDir session
  rwa [batch.making] at this

theorem format_eq (input : Path)
    : format Engine.html (textOf session input) batch.configuration.snapshot
        = (batch.rendering input).result.mapError .engine := by
  unfold format rendering renderingOf
  rw [batch.compiled]
  dsimp only
  cases Engine.html (textOf session input) batch.directives <;> rfl

theorem target_rendering (input : Path)
    : (batch.rendering input).target = batch.target input := by
  dsimp only [rendering, renderingOf, target]

/-- Why a file has no rendering is what the attempt to write it says. -/
theorem failure?_eq (input : Path)
    : batch.failure? input
        = match (batch.rendering input).outcome batch.made.tree session.directory with
          | .error reason => some reason
          | .ok _ => none := by
  unfold failure? Rendering.outcome
  rw [format_eq]
  cases (batch.rendering input).result with
  | error e => rfl
  | ok html =>
    dsimp only [Except.mapError]
    rw [Tree.writeFile_eq, target_rendering]
    cases batch.made.tree.fileTarget session.directory (batch.target input) <;> rfl

theorem pairwise
    : batch.inputs.Pairwise fun input other =>
        ¬SameOutput batch.outDir batch.configuration.extension input other :=
  (outputTargets_eq_ok_iff.mp batch.apart).2

theorem not_sameOutput {input other : Path} (hinput : input ∈ batch.inputs)
    (hother : other ∈ batch.inputs) (hne : input ≠ other)
    : ¬SameOutput batch.outDir batch.configuration.extension input other := by
  have : Std.Symm fun input other =>
      ¬SameOutput batch.outDir batch.configuration.extension input other :=
    ⟨fun _ _ hne heq => hne heq.symm⟩
  exact batch.pairwise.forall hinput hother hne

theorem isExtension : IsExtension batch.configuration.extension :=
  isExtension_of_loadSetup batch.loaded

theorem exists_reaches
    : ∃ place, batch.made.tree.Reaches session.directory batch.outDir place := by
  have hmade := congrArg Prod.fst batch.making
  have hreaches := exists_reaches_of_createDirectories (outDir_ne_empty batch.asked) hmade
  rwa [batch.making] at hreaches

section

variable (hformed : session.tree.WellFormed)

include hformed

theorem exists_destination {input : Path} (hmem : input ∈ batch.inputs)
    : ∃ stem, IsStem stem.toList
        ∧ Destination batch.outDir batch.configuration.extension stem (batch.target input) := by
  obtain ⟨text, hread⟩ := batch.readable input hmem
  obtain ⟨name, hname⟩ := hformed.exists_fileName? hread
  obtain ⟨stem, hstem⟩ : ∃ stem, input.stem? = some stem :=
    ⟨_, congrArg (Option.map _) hname⟩
  exact ⟨stem, isStem_of_stem? hstem, destination_outputPath batch.isExtension hstem⟩

theorem exists_endsAt {input : Path} (hmem : input ∈ batch.inputs)
    : ∃ parent last, batch.made.tree.EndsAt session.directory (batch.target input) parent last := by
  obtain ⟨place, hat⟩ := batch.exists_reaches
  obtain ⟨stem, hstem, hdestination⟩ := batch.exists_destination hformed hmem
  obtain ⟨parent, last, hends, _⟩ := hdestination.exists_endsAt batch.isExtension hstem hat
  exact ⟨parent, last, hends⟩

/-- Files whose paths differ in the directory are written to different places of the tree. -/
theorem place_ne {input other : Path} (hinput : input ∈ batch.inputs)
    (hother : other ∈ batch.inputs)
    (hne : ¬SameOutput batch.outDir batch.configuration.extension input other)
    {place otherPlace : Place}
    (hplace : batch.made.tree.fileTarget session.directory (batch.target input) = .ok place)
    (hotherPlace : batch.made.tree.fileTarget session.directory (batch.target other)
      = .ok otherPlace)
    : place ≠ otherPlace := by
  obtain ⟨_, hat⟩ := batch.exists_reaches
  obtain ⟨stem, hstem, hdestination⟩ := batch.exists_destination hformed hinput
  obtain ⟨otherStem, hotherStem, hotherDestination⟩ := batch.exists_destination hformed hother
  have hcollide : ¬Collide stem otherStem := by
    rwa [← hdestination.steps_eq_iff batch.isExtension hstem hotherStem hotherDestination]
  exact hdestination.place_ne batch.isExtension hstem hotherStem hotherDestination hcollide hat
    hplace hotherPlace

theorem apart_renderings
    : Apart batch.made.tree session.directory (batch.inputs.map batch.rendering) := by
  constructor
  . simp only [List.forall_mem_map, target_rendering]
    exact fun input hmem => batch.exists_endsAt hformed hmem
  . rw [List.pairwise_map]
    refine batch.pairwise.imp_of_mem ?_
    intro input other hinput hother hne place otherPlace hplace hotherPlace
    rw [target_rendering] at hplace hotherPlace
    exact batch.place_ne hformed hinput hother hne hplace hotherPlace

theorem writtenAll_renderings {failed : Nat} {after : Session}
    (h : batch.made.run (writeAll (batch.inputs.map batch.rendering)) = (failed, after))
    : WrittenAll batch.made (batch.inputs.map batch.rendering) failed after := by
  have hapart : Apart batch.made.tree batch.made.directory (batch.inputs.map batch.rendering) := by
    rw [batch.making_made.directory_eq]
    exact batch.apart_renderings hformed
  have hwritten := writtenAll (batch.inputs.map batch.rendering) hapart
  rwa [h] at hwritten

end

/-- The run of the program, as the writing of the renderings. -/
theorem run_eq {failed : Nat} {after : Session}
    (h : batch.made.run (writeAll (batch.inputs.map batch.rendering)) = (failed, after))
    : session.run (run batch.arguments)
        = (if failed = 0 then 0 else 1,
          { after with
            reports := after.reports ++ [summary failed batch.inputs.length]
              ++ if failed = 0 then []
                else ["Error: " ++ (Failure.incomplete failed).message] }) := by
  have hending := ending_renderToDirectory session batch.configuration batch.inputs batch.outDir
  rw [run_of_request batch.asked, run_task, run_perform_render, batch.loaded]
  dsimp only
  generalize session.run (renderToDirectory batch.configuration batch.inputs batch.outDir).run
    = performed at hending ⊢
  obtain ⟨result, final⟩ := performed
  dsimp only at hending
  cases hending with
  | noInputs hnil => exact absurd hnil batch.ne_nil
  | sameTarget hsame => simp [batch.apart] at hsame
  | unreadable hmem hread =>
    obtain ⟨text, htext⟩ := batch.readable _ hmem
    simp [htext] at hread
  | noDirectory hmade => simp [batch.making] at hmade
  | notCompiled _ hcompile => simp [batch.compiled] at hcompile
  | @written _ directives made _ _ _ _ _ hmade hcompile hwritten =>
    obtain rfl : batch.made = made := congrArg Prod.snd (batch.making.symm.trans hmade)
    obtain rfl : batch.directives = directives :=
      Except.ok.inj (batch.compiled.symm.trans hcompile)
    obtain ⟨rfl, rfl⟩ := Prod.mk.inj (h.symm.trans hwritten)
    by_cases hfailed : failed = 0
    . simp [hfailed]
    . simp [hfailed, Nat.pos_of_ne_zero hfailed]

/-- What the run of a batch comes to. -/
structure Settled (result : UInt32 × Session) : Prop where
  /-- A file without a failure gets the text that the program prints for it alone. -/
  written : ∀ input ∈ batch.inputs, batch.failure? input = none →
    ∃ text html, session.tree.readFile session.directory input = .ok text
      ∧ format Engine.html text batch.configuration.snapshot = .ok html
      ∧ result.2.tree.readFile session.directory (batch.target input) = .ok html
      ∧ session.run (Task.render batch.setup [input] none none).run
          = (0, { session with output := session.output ++ html })
  /-- The target of any other file is what it was when the directory had been made. -/
  kept : ∀ input ∈ batch.inputs, batch.failure? input ≠ none →
    result.2.tree.locate session.directory (batch.target input)
      = batch.made.tree.locate session.directory (batch.target input)
  others : ∀ place, (∀ input ∈ batch.inputs, batch.failure? input = none →
      batch.made.tree.fileTarget session.directory (batch.target input) ≠ .ok place) →
    result.2.tree.find? place = batch.made.tree.find? place
  grows : session.tree.OnlyNewDirectories batch.made.tree
  rest : result.2 = { session with
    tree := result.2.tree,
    reports := session.reports ++ batch.lines
      ++ if batch.failed = 0 then []
        else ["Error: " ++ toString batch.failed ++ " files failed to render"] }
  counts : batch.rendered + batch.failed = batch.inputs.length
  status : result.1 = if batch.failed = 0 then 0 else 1

theorem failure?_eq_none_iff (input : Path)
    : batch.failure? input = none
        ↔ ∃ place html, (batch.rendering input).outcome batch.made.tree session.directory
            = .ok (place, html) := by
  rw [failure?_eq]
  cases (batch.rendering input).outcome batch.made.tree session.directory with
  | error reason => simp
  | ok item => exact iff_of_true rfl ⟨item.1, item.2, rfl⟩

theorem warning?_rendering (input : Path)
    : (batch.rendering input).warning? batch.made.tree session.directory
        = (batch.failure? input).map (warning input) := by
  rw [failure?_eq]
  unfold Rendering.warning?
  cases (batch.rendering input).outcome batch.made.tree session.directory <;> rfl

end Batch

theorem run_single {setup : Setup} {input : Path} {configuration : Configuration}
    {text html : String} (hload : (session.run (loadSetup setup).run).1 = .ok configuration)
    (hread : session.tree.readFile session.directory input = .ok text)
    (hformat : format Engine.html text configuration.snapshot = .ok html)
    : session.run (Task.render setup [input] none none).run
        = (0, { session with output := session.output ++ html }) := by
  rw [run_task, run_perform_render, hload]
  dsimp only
  unfold renderSingle readSingle
  rw [run_except_bind, run_attempt, run_readFile, hread]
  dsimp only [Except.mapError]
  rw [run_except_bind, run_attempt, run_pure, hformat]
  rfl

namespace Batch

variable (batch : Batch session)

theorem warnings_eq
    : (batch.inputs.map batch.rendering).filterMap (·.warning? batch.made.tree session.directory)
        = batch.inputs.filterMap fun input => (batch.failure? input).map (warning input) := by
  rw [List.filterMap_map]
  apply List.filterMap_congr
  intro input _
  rw [Function.comp_apply, warning?_rendering]

section

variable {failed : Nat} {after : Session}
  (h : WrittenAll batch.made (batch.inputs.map batch.rendering) failed after)

include h

theorem failed_eq : failed = batch.failed := by
  rw [h.failed_eq, batch.making_made.directory_eq, warnings_eq]
  unfold Batch.failed
  rw [List.length_filterMap_eq_countP, List.length_filterMap_eq_countP]
  simp only [Option.isSome_map]

theorem after_eq
    : after = { session with
        tree := after.tree,
        reports := session.reports
          ++ batch.inputs.filterMap fun input => (batch.failure? input).map (warning input) } := by
  have hrest := h.rest
  rw [batch.making_made.directory_eq, warnings_eq] at hrest
  rw [hrest, batch.making_made.rest]

theorem readFile_eq {input : Path} (hmem : input ∈ batch.inputs) {place : Place} {html : String}
    (houtcome : (batch.rendering input).outcome batch.made.tree session.directory
      = .ok (place, html))
    : after.tree.readFile session.directory (batch.target input) = .ok html := by
  have hplace := (Rendering.outcome_eq_ok_iff.mp houtcome).2
  rw [target_rendering] at hplace
  rw [← batch.making_made.directory_eq] at houtcome
  have hfind := h.written _ (List.mem_map_of_mem hmem) place html houtcome
  exact Tree.readFile_of_fileTarget hplace hfind h.sameDirectories

theorem find?_eq {place : Place}
    (hother : ∀ input ∈ batch.inputs, batch.failure? input = none →
      batch.made.tree.fileTarget session.directory (batch.target input) ≠ .ok place)
    : after.tree.find? place = batch.made.tree.find? place := by
  apply h.kept
  rw [batch.making_made.directory_eq, List.forall_mem_map]
  intro input hmem html houtcome
  have hplace := (Rendering.outcome_eq_ok_iff.mp houtcome).2
  rw [target_rendering] at hplace
  exact hother input hmem ((batch.failure?_eq_none_iff input).mpr ⟨place, html, houtcome⟩) hplace

theorem locate_eq (hformed : session.tree.WellFormed) {input : Path} (hmem : input ∈ batch.inputs)
    (hfailure : batch.failure? input ≠ none)
    : after.tree.locate session.directory (batch.target input)
        = batch.made.tree.locate session.directory (batch.target input) := by
  obtain ⟨parent, last, hends⟩ := batch.exists_endsAt hformed hmem
  -- The target may be a directory. If it is a file's, no other rendering goes there.
  apply hends.locate_eq (batch.making_made.wellFormed hformed) h.sameDirectories
  intro place hplace
  apply batch.find?_eq h
  intro other hother hwritten hotherPlace
  have hne : input ≠ other := by
    rintro rfl
    exact hfailure hwritten
  exact batch.place_ne hformed hmem hother (batch.not_sameOutput hmem hother hne) hplace
    hotherPlace rfl

end

/-- A place that a run changes is the target of one of the files. -/
theorem exists_target_of_changed (hformed : session.tree.WellFormed) {place : Place}
    (hchanged : (session.run (run batch.arguments)).2.tree.find? place
      ≠ batch.made.tree.find? place)
    : ∃ input ∈ batch.inputs,
        batch.made.tree.fileTarget session.directory (batch.target input) = .ok place := by
  cases hrun : batch.made.run (writeAll (batch.inputs.map batch.rendering)) with
  | mk failed after =>
    rw [batch.run_eq hrun] at hchanged
    by_contra hnone
    apply hchanged
    apply batch.find?_eq (batch.writtenAll_renderings hformed hrun)
    intro input hmem _ hplace
    exact hnone ⟨input, hmem, hplace⟩

/-- Every file of a batch gets the rendering that it gets alone, and no other file is changed. -/
theorem batch_settled (hformed : session.tree.WellFormed)
    : batch.Settled (session.run (run batch.arguments)) := by
  cases hrun : batch.made.run (writeAll (batch.inputs.map batch.rendering)) with
  | mk failed after =>
    have hwritten := batch.writtenAll_renderings hformed hrun
    have hfailed := batch.failed_eq hwritten
    have hafter := batch.after_eq hwritten
    rw [batch.run_eq hrun]
    refine ⟨?_, ?_, ?_, batch.making_made.grows, ?_, batch.rendered_add_failed, ?_⟩
    . intro input hmem hnone
      obtain ⟨place, html, houtcome⟩ := (batch.failure?_eq_none_iff input).mp hnone
      obtain ⟨text, hread⟩ := batch.readable input hmem
      have hformat : format Engine.html text batch.configuration.snapshot = .ok html := by
        rw [← textOf_eq hread, format_eq, (Rendering.outcome_eq_ok_iff.mp houtcome).1]
        rfl
      exact ⟨text, html, hread, hformat, batch.readFile_eq hwritten hmem houtcome,
        run_single batch.loaded hread hformat⟩
    . intro input hmem hfailure
      exact batch.locate_eq hwritten hformed hmem hfailure
    . intro place hother
      exact batch.find?_eq hwritten hother
    . have hcount : batch.inputs.length - failed = batch.rendered := by
        rw [hfailed, ← batch.rendered_add_failed, Nat.add_sub_cancel]
      have hmessage : (Failure.incomplete failed).message
          = toString failed ++ " files failed to render" := rfl
      rw [hafter, ← hfailed, hmessage, String.append_assoc]
      unfold lines summary
      rw [hcount]
      simp only [List.append_assoc]
    . rw [hfailed]

/-- Of two files, the target of the second one is a directory. -/
theorem batch_settled_partly
    : ∃ (session : Session) (batch : Batch session), session.tree.WellFormed
        ∧ batch.Settled (session.run (run batch.arguments))
        ∧ (session.run (run batch.arguments)).1 = 1 := by
  let session := Session.start
    { entries := [(["a.md"], .file "one".toUTF8), (["b.md"], .file "two".toUTF8),
        (["o"], .directory), (["o", "b.html"], .directory)] } [] ""
  let setup : Setup := { path := none, adjustments := .none }
  have hasked : Request.ofArguments ["render", "--out-dir", "o", "a.md", "b.md"]
      = .ok (.task (.render setup [⟨"a.md"⟩, ⟨"b.md"⟩] none (some ⟨"o"⟩))) := by
    decide +kernel
  have hloaded : (session.run (loadSetup setup).run).1 = .ok .default := by
    decide +kernel
  have hapart : outputTargets ⟨"o"⟩ "html" [⟨"a.md"⟩, ⟨"b.md"⟩]
      = .ok [⟨"o/a.html"⟩, ⟨"o/b.html"⟩] := by
    decide +kernel
  have hfirst : session.tree.readFile session.directory ⟨"a.md"⟩ = .ok "one" := by
    decide +kernel
  have hsecond : session.tree.readFile session.directory ⟨"b.md"⟩ = .ok "two" := by
    decide +kernel
  have hmade : (session.run (createDirectories ⟨"o"⟩)).1 = .ok () := by
    decide +kernel
  have hformed : session.tree.WellFormed := by
    apply Tree.wellFormed_of_entries
    simp only [session, Session.start, List.mem_cons, List.not_mem_nil, or_false, forall_eq_or_imp,
      forall_eq]
    exact ⟨rfl, rfl, rfl, rfl⟩
  let batch : Batch session :=
    { arguments := ["render", "--out-dir", "o", "a.md", "b.md"], setup,
      inputs := [⟨"a.md"⟩, ⟨"b.md"⟩], output := none, outDir := ⟨"o"⟩, configuration := .default,
      targets := [⟨"o/a.html"⟩, ⟨"o/b.html"⟩],
      made := (session.run (createDirectories ⟨"o"⟩)).2, directives := .initial,
      asked := hasked, loaded := hloaded, ne_nil := by simp, apart := hapart,
      readable := by simp [hfirst, hsecond], making := Prod.ext hmade rfl,
      compiled := compile_empty }
  have hstatus : (session.run (run ["render", "--out-dir", "o", "a.md", "b.md"])).1 = 1 := by
    decide +kernel
  exact ⟨session, batch, hformed, batch.batch_settled hformed, hstatus⟩

end Batch

end DirectedMarkdown.Command
