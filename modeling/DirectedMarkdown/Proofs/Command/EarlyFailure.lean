import DirectedMarkdown.Proofs.Command.Run

/-!
This module contains what the rendering of files to a directory leaves behind if it fails before the
first file is rendered. Only the directory may be there, which is made before the configuration is
compiled.
-/

namespace DirectedMarkdown.Command

open Surroundings Session

/-- A failure before any file is rendered. -/
def Failure.IsEarly (failure : Failure) : Prop :=
  ∀ count, failure ≠ .incomplete count

/-- What is left of a run of the program that failed early. -/
structure LeftBehind (session : Session) (outDir : Path) (failure : Failure)
    (result : UInt32 × Session) : Prop where
  status : result.1 = 1
  reported : result.2 = { session with
    tree := result.2.tree, reports := session.reports ++ ["Error: " ++ failure.message] }
  grows : session.tree.OnlyNewDirectories result.2.tree
  /-- As long as the directory can be made, it is what a configuration at fault leaves behind. -/
  tree_eq_iff : (∀ path e, failure ≠ .noDirectory path e) →
    (result.2.tree = session.tree
      ↔ ((∃ e, failure = .compile e) → outDir.IsBare ∨ session.HasDirectory outDir))

section

variable {session : Session} {outDir : Path} {failure : Failure}

theorem leftBehind_of_making {after : Session} (h : session.Making after)
    (hiff : (∀ path e, failure ≠ .noDirectory path e) →
      (after.tree = session.tree
        ↔ ((∃ e, failure = .compile e) → outDir.IsBare ∨ session.HasDirectory outDir)))
    : LeftBehind session outDir failure
        (1, { after with reports := after.reports ++ ["Error: " ++ failure.message] }) := by
  refine ⟨rfl, ?_, h.grows, hiff⟩
  rw [h.rest]

theorem leftBehind_unchanged (h : ∀ e, failure ≠ .compile e)
    : LeftBehind session outDir failure
        (1, { session with reports := session.reports ++ ["Error: " ++ failure.message] }) := by
  apply leftBehind_of_making (.refl session)
  intro _
  refine iff_of_true rfl ?_
  rintro ⟨e, rfl⟩
  exact absurd rfl (h e)

theorem Ending.leftBehind {configuration : Configuration} {inputs : List Path} {after : Session}
    {result : Except Failure Unit} (h : Ending session configuration inputs outDir result after)
    (hresult : result = .error failure) (hearly : failure.IsEarly)
    : LeftBehind session outDir failure
        (1, { after with reports := after.reports ++ ["Error: " ++ failure.message] }) := by
  cases h with
  | noInputs _ | sameTarget _ | unreadable _ _ =>
    obtain rfl := Except.error.inj hresult
    exact leftBehind_unchanged nofun
  | noDirectory hmade =>
    obtain rfl := Except.error.inj hresult
    have hmaking := makes_createDirectories outDir session
    rw [hmade] at hmaking
    exact leftBehind_of_making hmaking fun h => absurd rfl (h _ _)
  | notCompiled hmade _ =>
    obtain rfl := Except.error.inj hresult
    have hmaking := makes_createDirectories outDir session
    have htree := createDirectories_tree_eq_iff (congrArg Prod.fst hmade)
    rw [hmade] at hmaking htree
    apply leftBehind_of_making hmaking
    intro _
    rw [htree]
    simp
  | @written _ _ _ _ failed _ _ _ _ _ _ =>
    split at hresult
    . obtain rfl := Except.error.inj hresult
      exact absurd rfl (hearly failed)
    . simp at hresult

end

/-- A run that fails early changes no file, and leaves nothing but directories behind. -/
theorem early_failure_leftBehind {session : Session} {arguments : List String} {setup : Setup}
    {inputs : List Path} {output : Option Path} {outDir : Path} {failure : Failure}
    (hrequest : Request.ofArguments arguments
      = .ok (.task (.render setup inputs output (some outDir))))
    (hfailure : (session.run (Task.render setup inputs output (some outDir)).perform.run).1
      = .error failure)
    (hearly : failure.IsEarly)
    : LeftBehind session outDir failure (session.run (run arguments)) := by
  rw [run_of_request hrequest, run_task]
  rw [run_perform_render] at hfailure ⊢
  cases hload : (session.run (loadSetup setup).run).1 with
  | error other =>
    rw [hload] at hfailure
    obtain rfl := Except.error.inj hfailure
    apply leftBehind_unchanged
    obtain ⟨e, rfl⟩ := exists_of_loadSetup hload
    exact nofun
  | ok configuration =>
    rw [hload] at hfailure
    have hending := ending_renderToDirectory session configuration inputs outDir
    dsimp only at hfailure ⊢
    generalize session.run (renderToDirectory configuration inputs outDir).run = performed at *
    obtain ⟨result, after⟩ := performed
    dsimp only at hfailure hending
    have hleft := hending.leftBehind hfailure hearly
    rw [hfailure]
    exact hleft

/-- A directory that was not there is left behind by a configuration that does not compile. -/
theorem early_failure_leaves_directory
    : let session := Session.start { entries := [(["a.md"], .file "text".toUTF8)] } [] ""
      let arguments := ["render", "--out-dir", "o", "a.md", "--set", "linkAttributes=bogus"]
      (session.run (run arguments)).1 = 1
        ∧ (session.run (run arguments)).2.tree ≠ session.tree := by
  intro session arguments
  let setup : Setup :=
    { path := none,
      adjustments := { Configuration.Adjustments.none with
        overrides := [("linkAttributes", "bogus")] } }
  have hrequest : Request.ofArguments arguments
      = .ok (.task (.render setup [⟨"a.md"⟩] none (some ⟨"o"⟩))) := by decide +kernel
  have hfailure : (session.run (Task.render setup [⟨"a.md"⟩] none (some ⟨"o"⟩)).perform.run).1
      = .error (.compile (.malformedPropertyEntry "linkAttributes" "bogus")) := by decide +kernel
  have hthere : ¬((⟨"o"⟩ : Path).IsBare ∨ session.HasDirectory ⟨"o"⟩) := by decide +kernel
  have hleft := early_failure_leftBehind hrequest hfailure nofun
  exact ⟨hleft.status, fun htree => hthere ((hleft.tree_eq_iff nofun).mp htree ⟨_, rfl⟩)⟩

end DirectedMarkdown.Command
