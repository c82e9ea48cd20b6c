import DirectedMarkdown.Proofs.Command.Batch

/-!
This module contains where the renderings of files that can be read go: each one to the directory,
under the stem of the file without an extension of its own, unless dots lead out of the directory.
-/

namespace DirectedMarkdown.Command

open Session

variable {session : Session} {outDir : Path} {extension : String}

/-- The stem of a file that can be read. -/
structure HasStem (session : Session) (input : Path) (stem : String) : Prop where
  readable : ∃ text, session.tree.readFile session.directory input = .ok text
  stem_eq : input.stem? = some stem

theorem exists_hasStem (hformed : session.tree.WellFormed) {input : Path} {text : String}
    (h : session.tree.readFile session.directory input = .ok text)
    : ∃ stem, HasStem session input stem := by
  obtain ⟨name, hname⟩ := hformed.exists_fileName? h
  exact ⟨_, ⟨text, h⟩, congrArg (Option.map _) hname⟩

/-- Where the renderings of the files of a session go, by their stems. -/
structure OutputsPlaced (session : Session) (outDir : Path) (extension : String) : Prop where
  total : ∀ input text, session.tree.readFile session.directory input = .ok text →
    ∃ stem, HasStem session input stem
  goes : ∀ input stem, HasStem session input stem →
    Destination outDir extension stem (outputPath input outDir extension)
  /-- The rendering is the child of the directory under the stem just if the stem is kept. -/
  child_iff : ∀ input stem, HasStem session input stem →
    (outputPath input outDir extension = outDir.join ⟨stem ++ "." ++ extension⟩ ↔ IsKept stem)
  same_iff : ∀ input other stem otherStem, HasStem session input stem →
    HasStem session other otherStem →
    (SameOutput outDir extension input other ↔ Collide stem otherStem)
  /-- Files are turned down just if the stems of two of them collide. -/
  rejected_iff : ∀ inputs, (∀ input ∈ inputs, ∃ stem, HasStem session input stem) →
    ((∃ failure, outputTargets outDir extension inputs = .error failure)
      ↔ ¬(inputs.filterMap Path.stem?).Pairwise fun stem other => ¬Collide stem other)
  /-- A file that a run changes is in the directory, unless the stem of an input is a lone dot. -/
  changed : ∀ batch : Batch session, batch.outDir = outDir →
    batch.configuration.extension = extension →
    ∀ out, batch.made.tree.Reaches session.directory outDir out →
    ∀ place, (session.run (run batch.arguments)).2.tree.find? place
        ≠ batch.made.tree.find? place →
      ∃ input ∈ batch.inputs, ∃ stem, HasStem session input stem
        ∧ (stem ≠ "." ∧ place = out ++ [baseOf stem ++ "." ++ extension]
          ∨ stem = "." ∧ ¬out <+: place)

section

variable (hextension : IsExtension extension)

include hextension

theorem sameOutput_iff {input other : Path} {stem otherStem : String}
    (h : HasStem session input stem) (hother : HasStem session other otherStem)
    : SameOutput outDir extension input other ↔ Collide stem otherStem :=
  (destination_outputPath hextension h.stem_eq).steps_eq_iff hextension
    (isStem_of_stem? h.stem_eq) (isStem_of_stem? hother.stem_eq)
    (destination_outputPath hextension hother.stem_eq)

theorem outputTargets_error_iff {inputs : List Path}
    (h : ∀ input ∈ inputs, ∃ stem, HasStem session input stem)
    : (∃ failure, outputTargets outDir extension inputs = .error failure)
        ↔ ¬(inputs.filterMap Path.stem?).Pairwise fun stem other => ¬Collide stem other := by
  have hpairwise : (inputs.filterMap Path.stem?).Pairwise (fun stem other => ¬Collide stem other)
      ↔ inputs.Pairwise fun input other => ¬SameOutput outDir extension input other := by
    rw [List.pairwise_filterMap]
    apply List.Pairwise.iff_of_mem
    intro input other hinput hother
    obtain ⟨stem, hstem⟩ := h input hinput
    obtain ⟨otherStem, hotherStem⟩ := h other hother
    rw [sameOutput_iff hextension hstem hotherStem]
    simp [hstem.stem_eq, hotherStem.stem_eq]
  rw [hpairwise]
  constructor
  . rintro ⟨failure, herror⟩ hapart
    have hok := outputTargets_eq_ok_iff.mpr ⟨rfl, hapart⟩
    simp [herror] at hok
  . intro hsame
    cases htargets : outputTargets outDir extension inputs with
    | error failure => exact ⟨failure, rfl⟩
    | ok targets => exact absurd (outputTargets_eq_ok_iff.mp htargets).2 hsame

end

/-- The places of a run that are not as they were when the directory had been made. -/
theorem exists_of_changed (hformed : session.tree.WellFormed) (batch : Batch session)
    {out place : Place} (hat : batch.made.tree.Reaches session.directory batch.outDir out)
    (hchanged : (session.run (run batch.arguments)).2.tree.find? place
      ≠ batch.made.tree.find? place)
    : ∃ input ∈ batch.inputs, ∃ stem, HasStem session input stem
        ∧ (stem ≠ "." ∧ place = out ++ [baseOf stem ++ "." ++ batch.configuration.extension]
          ∨ stem = "." ∧ ¬out <+: place) := by
  obtain ⟨input, hmem, htarget⟩ := batch.exists_target_of_changed hformed hchanged
  obtain ⟨text, hread⟩ := batch.readable input hmem
  obtain ⟨stem, hstem⟩ := exists_hasStem hformed hread
  have hdestination : Destination batch.outDir batch.configuration.extension stem
      (batch.target input) := destination_outputPath batch.isExtension hstem.stem_eq
  exact ⟨input, hmem, stem, hstem,
    hdestination.place_eq batch.isExtension (isStem_of_stem? hstem.stem_eq) hat htarget⟩

/--
The rendering of a file goes to the directory under its stem just if the stem has no extension of
its own. Stems may collide by their extensions, and a lone dot leads out of the directory.
-/
theorem outputs_placed (hformed : session.tree.WellFormed)
    (hextension : Configuration.checkExtension extension = .ok ())
    : OutputsPlaced session outDir extension := by
  have hextension := isExtension_of_checkExtension hextension
  constructor
  . intro input text hread
    exact exists_hasStem hformed hread
  . intro input stem hstem
    exact destination_outputPath hextension hstem.stem_eq
  . intro input stem hstem
    exact (destination_outputPath hextension hstem.stem_eq).eq_child_iff hextension
      (isStem_of_stem? hstem.stem_eq)
  . intro input other stem otherStem hstem hotherStem
    exact sameOutput_iff hextension hstem hotherStem
  . intro inputs hinputs
    exact outputTargets_error_iff hextension hinputs
  . rintro batch rfl rfl out hat place hchanged
    exact exists_of_changed hformed batch hat hchanged

/-- The stems of the first two files collide, and that of the third one is a lone dot. -/
theorem outputs_placed_astray
    : let session := Session.start
        { entries := [(["a.b.md"], .file "1".toUTF8), (["a.c.md"], .file "2".toUTF8),
            (["..md"], .file "3".toUTF8), (["o"], .directory)] } [] ""
      session.tree.WellFormed ∧ OutputsPlaced session ⟨"o"⟩ "html"
        ∧ (∃ failure, outputTargets ⟨"o"⟩ "html" [⟨"a.b.md"⟩, ⟨"a.c.md"⟩] = .error failure)
        ∧ (session.run (run ["render", "--out-dir", "o", "..md"])).2.tree.readFile [] ⟨"o.html"⟩
          = .ok "<p>3</p>\n" := by
  intro session
  have hformed : session.tree.WellFormed := by
    apply Tree.wellFormed_of_entries
    simp only [session, Session.start, List.mem_cons, List.not_mem_nil, or_false, forall_eq_or_imp,
      forall_eq]
    exact ⟨rfl, rfl, rfl, rfl⟩
  have hplaced : OutputsPlaced session ⟨"o"⟩ "html" := outputs_placed hformed (by decide +kernel)
  have hstems : ∀ input ∈ [(⟨"a.b.md"⟩ : Path), ⟨"a.c.md"⟩],
      ∃ stem, HasStem session input stem := by
    simp only [List.mem_cons, List.not_mem_nil, or_false, forall_eq_or_imp, forall_eq]
    exact ⟨⟨"a.b", ⟨"1", by decide +kernel⟩, by decide +kernel⟩,
      ⟨"a.c", ⟨"2", by decide +kernel⟩, by decide +kernel⟩⟩
  refine ⟨hformed, hplaced, (hplaced.rejected_iff _ hstems).mpr ?_, ?_⟩
  . decide +kernel
  . decide +kernel

end DirectedMarkdown.Command
