import DirectedMarkdown.Proofs.Command.Batch

/-!
This module contains what becomes of the files that are there before several files are rendered to a
directory. A file is overwritten just if a rendering goes to its place, and then its name ends in
the extension of the renderings.
-/

namespace DirectedMarkdown.Command

open Surroundings Session

variable {session : Session}

/-- The file at a path has the content that it had. -/
def FileKept (session : Session) (source : Path) (after : Session) : Prop :=
  ∀ place content, session.tree.locate session.directory source = .ok (place, .file content) →
    after.tree.locate session.directory source = .ok (place, .file content)

def SourcesKept (session : Session) (inputs : List Path) (after : Session) : Prop :=
  ∀ source ∈ inputs, FileKept session source after

theorem FileKept.readFile_eq {source : Path} {after : Session} {text : String}
    (h : FileKept session source after)
    (hread : session.tree.readFile session.directory source = .ok text)
    : after.tree.readFile session.directory source = .ok text := by
  rw [Tree.readFile_eq_ok_iff] at hread ⊢
  obtain ⟨place, content, hlocate, htext⟩ := hread
  exact ⟨place, content, h place content hlocate, htext⟩

theorem fileKept_iff {after : Session}
    (hdirectories : ∀ place, session.tree.find? place = some .directory →
      after.tree.find? place = some .directory) {source : Path}
    : FileKept session source after
        ↔ ∀ place content,
          session.tree.locate session.directory source = .ok (place, .file content) →
          after.tree.find? place = some (.file content) := by
  unfold FileKept
  refine forall_congr' fun place => forall_congr' fun content => imp_congr_right fun hlocate => ?_
  constructor
  . intro h
    obtain ⟨_, _, _, hfind⟩ := Tree.locate_eq_ok_iff.mp h
    exact hfind
  . intro hfind
    exact Tree.locate_of_directories hdirectories hlocate hfind

theorem fileKept_of_onlyNewDirectories {after : Session}
    (h : session.tree.OnlyNewDirectories after.tree) (source : Path)
    : FileKept session source after := by
  rw [fileKept_iff h.directories]
  intro place content hlocate
  obtain ⟨_, _, _, hfind⟩ := Tree.locate_eq_ok_iff.mp hlocate
  cases h place with
  | inl heq => rw [heq, hfind]
  | inr hnew => simp [hfind] at hnew

namespace Batch

variable (batch : Batch session)

/-- The rendering of `input` goes to the place of the file `source`, and has another content. -/
def Overwrites (input source : Path) : Prop :=
  ∃ place html content,
    (batch.rendering input).outcome batch.made.tree session.directory = .ok (place, html)
      ∧ session.tree.locate session.directory source = .ok (place, .file content)
      ∧ html.toUTF8 ≠ content

section

variable {failed : Nat} {after : Session}
  (h : WrittenAll batch.made (batch.inputs.map batch.rendering) failed after)

include h

theorem fileKept_iff_of_writtenAll (source : Path)
    : FileKept session source after
        ↔ ∀ input ∈ batch.inputs, ¬batch.Overwrites input source := by
  have hgrows := batch.making_made.grows
  have hdirectories : ∀ place, session.tree.find? place = some .directory →
      after.tree.find? place = some .directory :=
    fun place hfind => (h.sameDirectories place).mp (hgrows.directories place hfind)
  rw [fileKept_iff hdirectories]
  constructor
  . rintro hkept input hmem ⟨place, html, content, houtcome, hlocate, hne⟩
    rw [← batch.making_made.directory_eq] at houtcome
    have hwritten := h.written _ (List.mem_map_of_mem hmem) place html houtcome
    rw [hkept place content hlocate] at hwritten
    simp only [Option.some.injEq, Entry.file.injEq] at hwritten
    exact hne hwritten.symm
  . intro hnone place content hlocate
    by_cases hhit : ∃ input ∈ batch.inputs, ∃ html,
        (batch.rendering input).outcome batch.made.tree session.directory = .ok (place, html)
    . obtain ⟨input, hmem, html, houtcome⟩ := hhit
      have heq : html.toUTF8 = content := by
        apply Classical.byContradiction
        intro hne
        exact hnone input hmem ⟨place, html, content, houtcome, hlocate, hne⟩
      rw [← batch.making_made.directory_eq] at houtcome
      rw [h.written _ (List.mem_map_of_mem hmem) place html houtcome, heq]
    . -- No rendering goes to the place, and directories are made only where there was nothing.
      have hkept : after.tree.find? place = batch.made.tree.find? place := by
        apply h.kept
        rw [batch.making_made.directory_eq, List.forall_mem_map]
        intro input hmem html houtcome
        exact hhit ⟨input, hmem, html, houtcome⟩
      have hmade : FileKept session source batch.made :=
        fileKept_of_onlyNewDirectories hgrows source
      rw [fileKept_iff hgrows.directories] at hmade
      rw [hkept]
      exact hmade place content hlocate

end

section

variable (hformed : session.tree.WellFormed)

include hformed

theorem fileKept_run_iff (source : Path)
    : FileKept session source (session.run (run batch.arguments)).2
        ↔ ∀ input ∈ batch.inputs, ¬batch.Overwrites input source := by
  cases hrun : batch.made.run (writeAll (batch.inputs.map batch.rendering)) with
  | mk failed after =>
    rw [batch.run_eq hrun]
    exact batch.fileKept_iff_of_writtenAll (batch.writtenAll_renderings hformed hrun) source

/-- What is overwritten is named like a rendering. -/
theorem exists_fileName_of_overwrites {input source : Path} (hmem : input ∈ batch.inputs)
    (h : batch.Overwrites input source)
    : ∃ base, source.fileName? = some (base ++ "." ++ batch.configuration.extension) := by
  obtain ⟨place, html, content, houtcome, hlocate, _⟩ := h
  have htarget := (Rendering.outcome_eq_ok_iff.mp houtcome).2
  rw [target_rendering] at htarget
  obtain ⟨out, hat⟩ := batch.exists_reaches
  obtain ⟨stem, hstem, hdestination⟩ := batch.exists_destination hformed hmem
  obtain ⟨parent, base, hplace⟩ :=
    hdestination.exists_name batch.isExtension hstem hat htarget
  obtain ⟨other, name, hname, hother⟩ := hformed.exists_name hlocate
  obtain ⟨_, heq⟩ := List.append_inj' (hother.symm.trans hplace) rfl
  refine ⟨base, ?_⟩
  rw [hname, List.singleton_inj.mp heq]

end

theorem asked_eq {arguments : List String} {setup : Setup} {inputs : List Path}
    {output : Option Path} {outDir : Path}
    (hrequest : Request.ofArguments arguments
      = .ok (.task (.render setup inputs output (some outDir))))
    (h : batch.arguments = arguments) : batch.setup = setup ∧ batch.inputs = inputs := by
  have hasked := batch.asked
  rw [h, hrequest] at hasked
  simp only [Except.ok.injEq, Request.task.injEq, Task.render.injEq] at hasked
  exact ⟨hasked.1.symm, hasked.2.1.symm⟩

end Batch

/-- A run that does not get to the rendering of files makes directories only. -/
theorem onlyNewDirectories_or_exists_batch (session : Session) {arguments : List String}
    {setup : Setup} {inputs : List Path} {output : Option Path} {outDir : Path}
    (hrequest : Request.ofArguments arguments
      = .ok (.task (.render setup inputs output (some outDir))))
    : session.tree.OnlyNewDirectories (session.run (run arguments)).2.tree
      ∨ ∃ batch : Batch session, batch.arguments = arguments := by
  have hmaking := makes_createDirectories outDir session
  rw [run_of_request hrequest, run_task, run_perform_render]
  cases hload : (session.run (loadSetup setup).run).1 with
  | error failure => exact .inl (.refl session.tree)
  | ok configuration =>
    have hending := ending_renderToDirectory session configuration inputs outDir
    dsimp only
    generalize session.run (renderToDirectory configuration inputs outDir).run = performed at *
    obtain ⟨result, after⟩ := performed
    dsimp only at hending ⊢
    cases hending with
    | noInputs _ | sameTarget _ | unreadable _ _ => exact .inl (.refl session.tree)
    | noDirectory hmade | notCompiled hmade _ =>
      rw [hmade] at hmaking
      exact .inl hmaking.grows
    | @written targets directives made _ _ hne htargets hreadable hmade hcompile _ =>
      right
      refine ⟨{
        arguments, setup, inputs, output, outDir, configuration, targets, made, directives,
        asked := hrequest, loaded := hload, ne_nil := hne, apart := htargets,
        readable := hreadable, making := hmade, compiled := hcompile }, rfl⟩

/--
A run that renders files to a directory keeps the files that it renders just if none of the
renderings goes to the place of one of them. A file whose name does not end in the extension of the
renderings is always kept.
-/
theorem sources_kept_iff (hformed : session.tree.WellFormed) {arguments : List String}
    {setup : Setup} {inputs : List Path} {output : Option Path} {outDir : Path}
    (hrequest : Request.ofArguments arguments
      = .ok (.task (.render setup inputs output (some outDir))))
    : (SourcesKept session inputs (session.run (run arguments)).2
        ↔ ∀ batch : Batch session, batch.arguments = arguments →
          ∀ input ∈ inputs, ∀ source ∈ inputs, ¬batch.Overwrites input source)
      ∧ ∀ source, (∀ configuration, (session.run (loadSetup setup).run).1 = .ok configuration →
          ∀ base, source.fileName? ≠ some (base ++ "." ++ configuration.extension)) →
        FileKept session source (session.run (run arguments)).2 := by
  refine ⟨⟨?_, ?_⟩, ?_⟩
  . rintro hkept batch rfl input hmem source hsource
    obtain ⟨rfl, rfl⟩ := batch.asked_eq hrequest rfl
    apply (batch.fileKept_run_iff hformed source).mp
    . exact hkept source hsource
    . exact hmem
  . intro hnone source hsource
    rcases onlyNewDirectories_or_exists_batch session hrequest with hnew | ⟨batch, rfl⟩
    . exact fileKept_of_onlyNewDirectories hnew source
    . obtain ⟨rfl, rfl⟩ := batch.asked_eq hrequest rfl
      rw [batch.fileKept_run_iff hformed]
      intro input hmem
      exact hnone batch rfl input hmem source hsource
  . intro source hname
    rcases onlyNewDirectories_or_exists_batch session hrequest with hnew | ⟨batch, rfl⟩
    . exact fileKept_of_onlyNewDirectories hnew source
    . obtain ⟨rfl, rfl⟩ := batch.asked_eq hrequest rfl
      rw [batch.fileKept_run_iff hformed]
      intro input hmem hoverwrites
      obtain ⟨base, hbase⟩ := batch.exists_fileName_of_overwrites hformed hmem hoverwrites
      exact hname _ batch.loaded base hbase

/-- One of two files goes to the place of the other, which goes somewhere else itself. -/
theorem source_overwritten
    : let tree : Tree :=
        { entries := [(["a.b.c.md"], .file "one".toUTF8), (["a.b.html"], .file "two".toUTF8)] }
      let session := Session.start tree [] ""
      let arguments := ["render", "--out-dir", ".", "a.b.c.md", "a.b.html"]
      let inputs : List Path := [⟨"a.b.c.md"⟩, ⟨"a.b.html"⟩]
      let setup : Setup := { path := none, adjustments := .none }
      session.tree.WellFormed
        ∧ Request.ofArguments arguments = .ok (.task (.render setup inputs none (some ⟨"."⟩)))
        ∧ (session.run (run arguments)).1 = 0
        ∧ (session.run (run arguments)).2.tree.readFile [] ⟨"a.b.html"⟩ = .ok "<p>one</p>\n"
        ∧ ¬SourcesKept session inputs (session.run (run arguments)).2
        ∧ FileKept session ⟨"a.b.c.md"⟩ (session.run (run arguments)).2
        ∧ ∃ batch : Batch session, ∃ input ∈ inputs, ∃ source ∈ inputs,
          batch.Overwrites input source := by
  intro tree session arguments inputs setup
  have hformed : session.tree.WellFormed := by
    apply Tree.wellFormed_of_entries
    simp only [session, tree, Session.start, List.mem_cons, List.not_mem_nil, or_false,
      forall_eq_or_imp, forall_eq]
    exact ⟨rfl, rfl⟩
  have hrequest : Request.ofArguments arguments
      = .ok (.task (.render setup inputs none (some ⟨"."⟩))) := by
    decide +kernel
  have hload : (session.run (loadSetup setup).run).1 = .ok .default := by
    decide +kernel
  have hread : session.tree.readFile session.directory ⟨"a.b.html"⟩ = .ok "two" := by
    decide +kernel
  have hafter : (session.run (run arguments)).2.tree.readFile [] ⟨"a.b.html"⟩
      = .ok "<p>one</p>\n" := by
    decide +kernel
  have hlost : ¬SourcesKept session inputs (session.run (run arguments)).2 := by
    intro hkept
    have hsame := (hkept ⟨"a.b.html"⟩ (by simp [inputs])).readFile_eq hread
    have heq : "two" = "<p>one</p>\n" := Except.ok.inj (hsame.symm.trans hafter)
    revert heq
    decide
  obtain ⟨hiff, hnamed⟩ := sources_kept_iff hformed hrequest
  refine ⟨hformed, hrequest, by decide +kernel, hafter, hlost, ?_, ?_⟩
  . apply hnamed
    intro configuration hconfiguration base hbase
    rw [hload, Except.ok.injEq] at hconfiguration
    subst hconfiguration
    have hname : (⟨"a.b.c.md"⟩ : Path).fileName? = some "a.b.c.md" := by decide +kernel
    rw [hname, Option.some.injEq] at hbase
    simpa [Configuration.default] using congrArg (·.toList.getLast?) hbase
  . rw [hiff] at hlost
    push Not at hlost
    obtain ⟨batch, _, input, hmem, source, hsource, hoverwrites⟩ := hlost
    exact ⟨batch, input, hmem, source, hsource, hoverwrites⟩

end DirectedMarkdown.Command
