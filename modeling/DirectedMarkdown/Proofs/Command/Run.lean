import DirectedMarkdown.Command.Run
import DirectedMarkdown.Proofs.Command.OutputPath
import DirectedMarkdown.Proofs.Except
import DirectedMarkdown.Proofs.Session

/-!
This module contains the runs of commands in a session: what is looked at before anything changes,
and the ways in which the rendering of files to a directory can end.
-/

namespace DirectedMarkdown.Command

open Surroundings Session

variable {α β ε : Type} {session : Session}

theorem run_except_bind (action : ExceptT Failure (StateM Session) α)
    (next : α → ExceptT Failure (StateM Session) β)
    : session.run (action >>= next).run
        = match session.run action.run with
          | (.ok a, after) => after.run (next a).run
          | (.error e, after) => (.error e, after) := by
  show session.run (action.run >>= ExceptT.bindCont next) = _
  rw [run_bind]
  generalize session.run action.run = first
  obtain ⟨result, after⟩ := first
  cases result <;> rfl

theorem run_mk_pure (result : Except Failure α)
    : session.run (ExceptT.mk (pure result)).run = (result, session) := rfl

theorem run_liftM (action : StateM Session α)
    : session.run (liftM action : ExceptT Failure (StateM Session) α).run
        = (.ok (session.run action).1, (session.run action).2) := rfl

theorem run_tell (line : String)
    : session.run (tell line).run
        = (.ok (), { session with reports := session.reports ++ [line] }) := rfl

theorem run_attempt (failure : ε → Failure) (action : StateM Session (Except ε α))
    : session.run (attempt failure action).run
        = ((session.run action).1.mapError failure, (session.run action).2) := by
  show session.run (action >>= _) = _
  rw [run_bind]
  generalize session.run action = first
  obtain ⟨result, after⟩ := first
  cases result <;> rfl

section

open DirectedMarkdown.Configuration

theorem looks_ofFile (path : Path) : Looks (ofFile path) := by
  unfold ofFile
  refine (looks_readFile path).bind fun result => ?_
  split <;> exact looks_pure _

theorem looks_discover : Looks discover := by
  unfold discover
  refine looks_workingDirectory.bind fun directory => ?_
  split
  . exact looks_pure _
  . exact looks_firstThere? _

theorem looks_base (path : Option Path) : Looks (base path) := by
  unfold base
  split
  . next path =>
    refine (looks_isThere path).bind fun isThere => ?_
    split
    . exact looks_ofFile path
    . exact looks_pure _
  . refine looks_discover.bind fun found => ?_
    split
    . exact looks_ofFile _
    . exact looks_pure _

theorem looks_load (path : Option Path) (adjustments : Adjustments)
    : Looks (load path adjustments) := by
  unfold load
  refine (looks_base path).bind fun result => ?_
  split
  . exact looks_pure _
  . split <;> exact looks_pure _

theorem isExtension_default : IsExtension default.extension :=
  ⟨by decide, by decide⟩

theorem isExtension_of_ofText {document : String} {configuration : Configuration}
    (h : ofText document = .ok configuration) : IsExtension configuration.extension := by
  unfold ofText at h
  split at h
  . simp at h
  . split at h
    . simp at h
    . simp at h
    . split at h
      . simp at h
      . split at h
        . simp at h
        . next hcheck =>
          obtain rfl := Except.ok.inj h
          exact isExtension_of_checkExtension hcheck

theorem isExtension_of_ofFile {path : Path} {configuration : Configuration}
    (h : (session.run (ofFile path)).1 = .ok configuration)
    : IsExtension configuration.extension := by
  unfold ofFile at h
  rw [run_bind] at h
  split at h
  . simp [run_pure] at h
  . next document _ =>
    rw [run_pure] at h
    obtain ⟨found, htext, rfl⟩ := except_map_eq_ok h
    have hfound := isExtension_of_ofText htext
    exact hfound

theorem isExtension_of_base {path : Option Path} {configuration : Configuration}
    (h : (session.run (base path)).1 = .ok configuration)
    : IsExtension configuration.extension := by
  unfold base at h
  split at h
  . rw [run_bind] at h
    split at h
    . exact isExtension_of_ofFile h
    . simp [run_pure] at h
  . rw [run_bind] at h
    split at h
    . exact isExtension_of_ofFile h
    . rw [run_pure, Except.ok.injEq] at h
      rw [← h]
      exact isExtension_default

/-- The extension of every configuration that is loaded can be put to a name. -/
theorem isExtension_of_load {path : Option Path} {adjustments : Adjustments}
    {configuration : Configuration}
    (h : (session.run (load path adjustments)).1 = .ok configuration)
    : IsExtension configuration.extension := by
  unfold load at h
  rw [run_bind] at h
  split at h
  . simp [run_pure] at h
  . next found hfound =>
    split at h
    . simp [run_pure] at h
    . rw [run_pure, Except.ok.injEq] at h
      have hextension := isExtension_of_base hfound
      rw [← h]
      exact hextension

end

theorem run_loadSetup (setup : Setup)
    : session.run (loadSetup setup).run
        = ((session.run (Configuration.load setup.path setup.adjustments)).1.mapError
            .configuration, session) := by
  unfold loadSetup
  rw [run_attempt, looks_load]

theorem exists_of_loadSetup {setup : Setup} {failure : Failure}
    (h : (session.run (loadSetup setup).run).1 = .error failure)
    : ∃ e, failure = .configuration e := by
  rw [run_loadSetup] at h
  obtain ⟨e, _, rfl⟩ := except_mapError_eq_error h
  exact ⟨e, rfl⟩

theorem isExtension_of_loadSetup {setup : Setup} {configuration : Configuration}
    (h : (session.run (loadSetup setup).run).1 = .ok configuration)
    : IsExtension configuration.extension := by
  rw [run_loadSetup] at h
  exact isExtension_of_load (except_mapError_eq_ok h)

theorem run_readAll_cons (input : Path) (rest : List Path)
    : session.run (readAll (input :: rest)).run
        = match session.tree.readFile session.directory input with
          | .error e => (.error (.unreadable input e), session)
          | .ok text =>
            match session.run (readAll rest).run with
            | (.ok texts, after) => (.ok (text :: texts), after)
            | (.error failure, after) => (.error failure, after) := by
  rw [readAll, run_except_bind, run_attempt, run_readFile]
  cases session.tree.readFile session.directory input with
  | error e => rfl
  | ok text =>
    dsimp only [Except.mapError]
    rw [run_except_bind]
    generalize session.run (readAll rest).run = others
    obtain ⟨result, after⟩ := others
    cases result <;> rfl

/-- The text of a file, if it can be read. -/
def textOf (session : Session) (input : Path) : String :=
  (session.tree.readFile session.directory input).toOption.getD ""

theorem textOf_eq {input : Path} {text : String}
    (h : session.tree.readFile session.directory input = .ok text)
    : textOf session input = text := by
  unfold textOf
  rw [h]
  rfl

/-- Either all files are read, or there is one that cannot be read. -/
theorem run_readAll (session : Session) (inputs : List Path)
    : (∃ input e, input ∈ inputs ∧ session.tree.readFile session.directory input = .error e
        ∧ session.run (readAll inputs).run = (.error (.unreadable input e), session))
      ∨ (∀ input ∈ inputs, ∃ text, session.tree.readFile session.directory input = .ok text)
        ∧ session.run (readAll inputs).run = (.ok (inputs.map (textOf session)), session) := by
  induction inputs with
  | nil => exact .inr ⟨by simp, rfl⟩
  | cons input rest ih =>
    rw [run_readAll_cons]
    cases hread : session.tree.readFile session.directory input with
    | error e => exact .inl ⟨input, e, List.mem_cons_self, hread, rfl⟩
    | ok text =>
      rcases ih with ⟨other, e, hmem, hother, hrun⟩ | ⟨hreadable, hrun⟩
      . rw [hrun]
        exact .inl ⟨other, e, List.mem_cons_of_mem _ hmem, hother, rfl⟩
      . rw [hrun, List.map_cons, textOf_eq hread]
        exact .inr ⟨List.forall_mem_cons.mpr ⟨⟨text, hread⟩, hreadable⟩, rfl⟩

/-- The rendering of one of several files. -/
def renderingOf (session : Session) (configuration : Configuration) (directives : DirectiveSet)
    (outDir input : Path) : Rendering where
  input := input
  target := outputPath input outDir configuration.extension
  result := Engine.html (textOf session input) directives

theorem renderings_eq (configuration : Configuration) (directives : DirectiveSet) (outDir : Path)
    (inputs : List Path)
    : (inputs.zip ((inputs.map (outputPath · outDir configuration.extension)).zip
        ((inputs.map (textOf session)).map (Engine.html · directives)))).map
          (fun (input, target, result) => { input, target, result : Rendering })
        = inputs.map (renderingOf session configuration directives outDir) := by
  induction inputs with
  | nil => rfl
  | cons input rest ih => exact congrArg (_ :: ·) ih

/-- The line that is shown at the end. -/
def summary (failed count : Nat) : String :=
  "Rendered " ++ toString (count - failed) ++ " of " ++ toString count ++ " files"

/-- The ways in which the rendering of files to a directory ends. -/
inductive Ending (session : Session) (configuration : Configuration) (inputs : List Path)
    (outDir : Path) : Except Failure Unit → Session → Prop where
  | noInputs (h : inputs = [])
    : Ending session configuration inputs outDir (.error .noInputs) session
  | sameTarget {first second target : Path}
    (h : outputTargets outDir configuration.extension inputs
      = .error (.sameTarget first second target))
    : Ending session configuration inputs outDir (.error (.sameTarget first second target)) session
  | unreadable {input : Path} {e : FileError} (hmem : input ∈ inputs)
    (h : session.tree.readFile session.directory input = .error e)
    : Ending session configuration inputs outDir (.error (.unreadable input e)) session
  | noDirectory {e : FileError} {made : Session}
    (h : session.run (createDirectories outDir) = (.error e, made))
    : Ending session configuration inputs outDir (.error (.noDirectory outDir e)) made
  | notCompiled {e : CompileError} {made : Session}
    (hmade : session.run (createDirectories outDir) = (.ok (), made))
    (h : compile configuration.snapshot = .error e)
    : Ending session configuration inputs outDir (.error (.compile e)) made
  | written {targets : List Path} {directives : DirectiveSet} {made after : Session} {failed : Nat}
    (hne : inputs ≠ [])
    (htargets : outputTargets outDir configuration.extension inputs = .ok targets)
    (hreadable : ∀ input ∈ inputs,
      ∃ text, session.tree.readFile session.directory input = .ok text)
    (hmade : session.run (createDirectories outDir) = (.ok (), made))
    (hcompile : compile configuration.snapshot = .ok directives)
    (hwritten : made.run
      (writeAll (inputs.map (renderingOf session configuration directives outDir)))
        = (failed, after))
    : Ending session configuration inputs outDir
        (if 0 < failed then .error (.incomplete failed) else .ok ())
        { after with reports := after.reports ++ [summary failed inputs.length] }

theorem ending_renderToDirectory (session : Session) (configuration : Configuration)
    (inputs : List Path) (outDir : Path)
    : Ending session configuration inputs outDir
        (session.run (renderToDirectory configuration inputs outDir).run).1
        (session.run (renderToDirectory configuration inputs outDir).run).2 := by
  unfold renderToDirectory
  split
  . next hempty => exact .noInputs (List.isEmpty_iff.mp hempty)
  . next hempty =>
    have hne : inputs ≠ [] := fun hnil => hempty (List.isEmpty_iff.mpr hnil)
    rw [run_except_bind, run_mk_pure]
    cases htargets : outputTargets outDir configuration.extension inputs with
    | error failure =>
      obtain ⟨first, second, target, rfl⟩ := exists_sameTarget htargets
      exact .sameTarget htargets
    | ok targets =>
      dsimp only
      rw [run_except_bind]
      rcases run_readAll session inputs with ⟨input, e, hmem, hread, hrun⟩ | ⟨hreadable, hrun⟩
      . rw [hrun]
        exact .unreadable hmem hread
      . rw [hrun]
        dsimp only
        rw [run_except_bind, run_attempt]
        cases hmade : session.run (createDirectories outDir) with
        | mk result made =>
          cases result with
          | error e => exact .noDirectory hmade
          | ok _ =>
            dsimp only [Except.mapError]
            rw [run_except_bind, run_attempt, run_pure, formatBatch]
            cases hcompile : compile configuration.snapshot with
            | error e => exact .notCompiled hmade hcompile
            | ok directives =>
              obtain ⟨rfl, _⟩ := outputTargets_eq_ok_iff.mp htargets
              dsimp only [Except.map, Except.mapError]
              rw [renderings_eq, run_except_bind, run_liftM]
              cases hwritten : made.run
                  (writeAll (inputs.map (renderingOf session configuration directives outDir))) with
              | mk failed after =>
                dsimp only
                rw [run_except_bind, run_tell]
                have hend := Ending.written hne htargets hreadable hmade hcompile hwritten
                by_cases hfailed : 0 < failed
                . simp only [if_pos hfailed] at hend ⊢
                  exact hend
                . simp only [if_neg hfailed] at hend ⊢
                  exact hend

theorem run_perform_render (setup : Setup) (inputs : List Path) (output outDir : Option Path)
    : session.run (Task.render setup inputs output outDir).perform.run
        = match (session.run (loadSetup setup).run).1 with
          | .error failure => (.error failure, session)
          | .ok configuration =>
            match outDir with
            | some outDir => session.run (renderToDirectory configuration inputs outDir).run
            | none => session.run (renderSingle configuration inputs output).run := by
  show session.run (loadSetup setup >>= _).run = _
  rw [run_except_bind, run_loadSetup]
  cases (session.run (Configuration.load setup.path setup.adjustments)).1 with
  | error e => rfl
  | ok configuration => cases outDir <;> rfl

theorem run_task (task : Task)
    : session.run task.run
        = match session.run task.perform.run with
          | (.ok (), after) => (0, after)
          | (.error failure, after) =>
            (1, { after with reports := after.reports ++ ["Error: " ++ failure.message] }) := by
  unfold Task.run
  rw [run_bind]
  generalize session.run task.perform.run = performed
  obtain ⟨result, after⟩ := performed
  cases result <;> rfl

theorem run_of_request {arguments : List String} {task : Task}
    (h : Request.ofArguments arguments = .ok (.task task))
    : session.run (run arguments) = session.run task.run := by
  unfold run
  rw [h]

end DirectedMarkdown.Command
