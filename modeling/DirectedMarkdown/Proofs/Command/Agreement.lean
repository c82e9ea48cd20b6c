import DirectedMarkdown.Proofs.Command.Problem
import DirectedMarkdown.Proofs.Command.Request

/-!
This module contains what the commands agree on: each finds the same problem with a configuration,
or none, on its own way.
-/

namespace DirectedMarkdown.Command

open Surroundings Session

variable {session : Session}

def Problem.failure : Problem → Failure
  | load e => .configuration e
  | compile e => .compile e

/-- The problem with the configuration that a command fails for. -/
def Failure.problem? : Failure → Option Problem
  | configuration e => some (.load e)
  | compile e | format (.compile e) => some (.compile e)
  | _ => none

theorem Failure.message_eq {failure : Failure} {problem : Problem}
    (h : failure.problem? = some problem) : failure.message = problem.message := by
  unfold problem? at h
  split at h
  . obtain rfl := Option.some.inj h
    rfl
  . obtain rfl := Option.some.inj h
    rfl
  . obtain rfl := Option.some.inj h
    rfl
  . simp at h

theorem Problem.problem?_failure (problem : Problem)
    : problem.failure.problem? = some problem := by
  cases problem <;> rfl

/-- The problem with the configuration that work ends with. -/
def problemOf : Except Failure Unit → Option Problem
  | .ok _ => none
  | .error failure => failure.problem?

/-- How work ends that does nothing but to look at the configuration. -/
def ending : Option Problem → Except Failure Unit
  | none => .ok ()
  | some problem => .error problem.failure

theorem problemOf_ending (problem : Option Problem) : problemOf (ending problem) = problem := by
  cases problem with
  | none => rfl
  | some problem => exact problem.problem?_failure

theorem run_printDirectives (configuration : Configuration)
    : (session.run (printDirectives configuration).run).1
        = ending (problemWith configuration) := by
  unfold printDirectives compileSettings problemWith
  rw [run_except_bind, run_attempt, run_pure]
  cases compile configuration.snapshot with
  | error e => rfl
  | ok directives => rfl

theorem run_tellAll (lines : List String)
    : session.run (tellAll lines).run
        = (.ok (), { session with reports := session.reports ++ lines }) := by
  induction lines generalizing session with
  | nil =>
    rw [List.append_nil]
    rfl
  | cons line rest ih =>
    rw [tellAll, run_except_bind, run_tell]
    dsimp only
    rw [ih, List.append_assoc]
    rfl

theorem run_checkConfiguration (configuration : Configuration)
    : (session.run (checkConfiguration configuration).run).1
        = ending (problemWith configuration) := by
  unfold checkConfiguration compileSettings problemWith
  rw [run_except_bind, run_tell]
  dsimp only
  rw [run_except_bind, run_tellAll]
  dsimp only
  rw [run_except_bind, run_attempt, run_pure]
  cases compile configuration.snapshot with
  | error e => rfl
  | ok directives => rfl

/-- The inputs are a single text that can be read. -/
inductive OneText (session : Session) : List Path → Prop where
  | input : OneText session []
  | file {path : Path} {text : String}
    (h : session.tree.readFile session.directory path = .ok text) : OneText session [path]

theorem OneText.exists_run {inputs : List Path} (h : OneText session inputs)
    : ∃ text after, session.run (readSingle inputs).run = (.ok text, after) := by
  cases h with
  | input => exact ⟨session.input, _, rfl⟩
  | @file path text hread =>
    refine ⟨text, session, ?_⟩
    rw [readSingle, run_attempt, run_readFile, hread]
    rfl

theorem problemOf_renderSingle (configuration : Configuration) {inputs : List Path}
    (h : OneText session inputs) (output : Option Path)
    : problemOf (session.run (renderSingle configuration inputs output).run).1
        = problemWith configuration := by
  obtain ⟨text, after, hread⟩ := h.exists_run
  unfold renderSingle problemWith
  rw [run_except_bind, hread]
  dsimp only
  rw [run_except_bind, run_attempt, run_pure]
  unfold format
  cases compile configuration.snapshot with
  | error e => rfl
  | ok directives =>
    dsimp only
    cases Engine.html text directives with
    | error e => rfl
    | ok html =>
      dsimp only [Except.mapError]
      cases output with
      | none => rfl
      | some path =>
        dsimp only
        rw [run_attempt]
        cases (after.run (writeFile path html)).1 with
        | error e => rfl
        | ok _ => rfl

theorem run_loadSetup_bind {next : Configuration → ExceptT Failure (StateM Session) Unit}
    (hnext : ∀ configuration,
      (session.run (next configuration).run).1 = ending (problemWith configuration))
    (setup : Setup)
    : (session.run (loadSetup setup >>= next).run).1 = ending (problemIn session setup) := by
  unfold problemIn
  rw [run_except_bind, run_loadSetup]
  cases (session.run (Configuration.load setup.path setup.adjustments)).1 with
  | error e => rfl
  | ok configuration => exact hnext configuration

theorem perform_directives (setup : Setup)
    : (session.run (Task.directives setup).perform.run).1 = ending (problemIn session setup) :=
  run_loadSetup_bind run_printDirectives setup

theorem perform_check (setup : Setup)
    : (session.run (Task.check setup).perform.run).1 = ending (problemIn session setup) :=
  run_loadSetup_bind run_checkConfiguration setup

theorem problemOf_perform_render (setup : Setup) {inputs : List Path} (h : OneText session inputs)
    (output : Option Path)
    : problemOf (session.run (Task.render setup inputs output none).perform.run).1
        = problemIn session setup := by
  rw [run_perform_render, run_loadSetup]
  unfold problemIn
  cases (session.run (Configuration.load setup.path setup.adjustments)).1 with
  | error e => rfl
  | ok configuration => exact problemOf_renderSingle configuration h output

/-- A run ends with an error that is told in this line. -/
def EndsWith (line : String) (outcome : UInt32 × Session) : Prop :=
  outcome.1 = 1 ∧ outcome.2.reports.getLast? = some line

theorem status_eq_zero_iff {task : Task} {problem : Option Problem}
    (h : (session.run task.perform.run).1 = ending problem)
    : (session.run task.run).1 = 0 ↔ problem = none := by
  rw [run_task]
  generalize session.run task.perform.run = performed at h
  obtain ⟨result, after⟩ := performed
  dsimp only at h
  subst h
  cases problem with
  | none => simp [ending]
  | some problem => simp [ending]

theorem endsWith_of_problemOf {task : Task} {problem : Problem}
    (h : problemOf (session.run task.perform.run).1 = some problem)
    : EndsWith ("Error: " ++ problem.message) (session.run task.run) := by
  rw [run_task]
  generalize session.run task.perform.run = performed at h
  obtain ⟨result, after⟩ := performed
  cases result with
  | ok _ => simp [problemOf] at h
  | error failure =>
    refine ⟨rfl, ?_⟩
    rw [List.getLast?_append, ← Failure.message_eq h]
    rfl

/--
The commands agree on the configurations that can be used. With the same options they are all
understood, and then either none of them has a problem with the configuration, or all of them end
with the line for the first one.
-/
theorem commands_agree {shared : List String} {setup : Setup}
    (hshared : Request.ofArguments ("check" :: shared) = .ok (.task (.check setup)))
    (session : Session)
    : Request.ofArguments ("directives" :: shared) = .ok (.task (.directives setup))
      ∧ (∀ input, Argument.ofString input = .word → input ≠ "" →
        Request.ofArguments ("render" :: input :: shared)
          = .ok (.task (.render setup [⟨input⟩] none none)))
      ∧ ∀ rendering inputs output,
        Request.ofArguments rendering = .ok (.task (.render setup inputs output none)) →
        OneText session inputs →
        let checked := session.run (run ("check" :: shared))
        let directed := session.run (run ("directives" :: shared))
        let rendered := session.run (run rendering)
        let result := (session.run (Task.render setup inputs output none).perform.run).1
        (checked.1 = 0 ↔ directed.1 = 0)
          ∧ (directed.1 = 0 ↔ problemOf result = none)
          ∧ (checked.1 ≠ 0 → ∃ problem line, problemIn session setup = some problem
            ∧ FirstProblem session setup problem ∧ problem.Says line
            ∧ ∀ outcome ∈ [checked, directed, rendered],
              EndsWith ("Error: " ++ line) outcome) := by
  have hdirectives := request_directives_of_check hshared
  refine ⟨hdirectives, fun input => request_render_of_check hshared, ?_⟩
  intro rendering inputs output hrendering hone checked directed rendered result
  have hchecked : checked = session.run (Task.check setup).run := run_of_request hshared
  have hdirected : directed = session.run (Task.directives setup).run := run_of_request hdirectives
  have hrendered : rendered = session.run (Task.render setup inputs output none).run :=
    run_of_request hrendering
  have hcheckedZero : (session.run (Task.check setup).run).1 = 0 ↔ problemIn session setup = none :=
    status_eq_zero_iff (perform_check setup)
  have hdirectedZero
      : (session.run (Task.directives setup).run).1 = 0 ↔ problemIn session setup = none :=
    status_eq_zero_iff (perform_directives setup)
  have hresult : problemOf result = problemIn session setup :=
    problemOf_perform_render setup hone output
  rw [hchecked, hdirected, hrendered, hcheckedZero, hdirectedZero, hresult]
  refine ⟨Iff.rfl, Iff.rfl, fun hfailed => ?_⟩
  obtain ⟨problem, hfirst⟩ := Option.ne_none_iff_exists'.mp (mt hcheckedZero.mpr hfailed)
  refine ⟨problem, problem.message, hfirst, firstProblem_of_problemIn hfirst,
    problem.says_message, ?_⟩
  rw [List.forall_mem_cons, List.forall_mem_cons, List.forall_mem_singleton]
  refine ⟨?_, ?_, ?_⟩
  . apply endsWith_of_problemOf
    rw [perform_check, problemOf_ending, hfirst]
  . apply endsWith_of_problemOf
    rw [perform_directives, problemOf_ending, hfirst]
  . apply endsWith_of_problemOf
    rw [problemOf_perform_render setup hone output, hfirst]

/-- A setting that does not compile is the first problem for each of the commands. -/
theorem commands_agree_malformed
    : let session := Session.start { entries := [(["a.md"], .file "text".toUTF8)] } [] ""
      let shared := ["--set", "linkAttributes=bogus"]
      let line := "Error: linkAttributes: malformed property entry \"bogus\" "
        ++ "(expected `key=value` or `key:value`)"
      EndsWith line (session.run (run ("check" :: shared)))
        ∧ EndsWith line (session.run (run ("directives" :: shared)))
        ∧ EndsWith line (session.run (run ("render" :: "a.md" :: shared))) := by
  intro session shared line
  let setup : Setup :=
    { path := none,
      adjustments := { Configuration.Adjustments.none with
        overrides := [("linkAttributes", "bogus")] } }
  have hshared : Request.ofArguments ("check" :: shared) = .ok (.task (.check setup)) := by
    decide +kernel
  have hread : session.tree.readFile session.directory ⟨"a.md"⟩ = .ok "text" := by
    decide +kernel
  have hfailed : (session.run (run ("check" :: shared))).1 ≠ 0 := by decide +kernel
  have hproblem : problemIn session setup
      = some (.compile (.malformedPropertyEntry "linkAttributes" "bogus")) := by
    decide +kernel
  obtain ⟨_, hrender, hagree⟩ := commands_agree hshared session
  have hrequest := hrender "a.md" (by decide +kernel) (by decide)
  obtain ⟨problem, text, hfirst, _, hsays, hends⟩ :=
    (hagree _ _ _ hrequest (.file hread)).2.2 hfailed
  obtain rfl := Option.some.inj (hproblem.symm.trans hfirst)
  have htext : "Error: " ++ text = line := by
    cases hsays with
    | compile hsays =>
      cases hsays
      decide +kernel
  rw [htext, List.forall_mem_cons, List.forall_mem_cons, List.forall_mem_singleton] at hends
  exact hends

end DirectedMarkdown.Command
