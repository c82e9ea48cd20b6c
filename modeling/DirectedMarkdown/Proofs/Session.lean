import DirectedMarkdown.Proofs.File.Ending
import DirectedMarkdown.Session

/-!
This module contains what the actions of a session leave as it is. Looking at files changes nothing,
and making directories adds directories only.
-/

namespace DirectedMarkdown.Session

open Surroundings

variable {α β : Type} {session : Session}

/-- What an action gives in a session, and the session after it. -/
def run (session : Session) (action : StateM Session α) : α × Session :=
  action session

theorem run_pure (a : α) : session.run (pure a) = (a, session) := rfl

theorem run_bind (action : StateM Session α) (next : α → StateM Session β)
    : session.run (action >>= next)
        = (session.run action).2.run (next (session.run action).1) := rfl

/-- An action that only looks at the session. -/
def Looks (action : StateM Session α) : Prop :=
  ∀ session : Session, (session.run action).2 = session

theorem looks_pure (a : α) : Looks (pure a) :=
  fun _ => rfl

theorem Looks.bind {action : StateM Session α} {next : α → StateM Session β} (h : Looks action)
    (hnext : ∀ a, Looks (next a)) : Looks (action >>= next) := by
  intro session
  rw [run_bind, h session]
  exact hnext _ session

theorem run_readFile (path : Path)
    : session.run (readFile path) = (session.tree.readFile session.directory path, session) := rfl

theorem run_writeFile (path : Path) (text : String)
    : session.run (writeFile path text)
        = session.update (session.tree.writeFile session.directory path text) := rfl

theorem looks_readFile (path : Path) : Looks (readFile path) :=
  fun _ => rfl

theorem looks_isThere (path : Path) : Looks (isThere path) :=
  fun _ => rfl

theorem looks_workingDirectory : Looks workingDirectory :=
  fun _ => rfl

theorem looks_firstThere? (paths : List Path) : Looks (firstThere? paths) := by
  induction paths with
  | nil => exact looks_pure none
  | cons path rest ih =>
    unfold firstThere?
    refine (looks_isThere path).bind fun isThere => ?_
    split
    . exact looks_pure (some path)
    . exact ih

/-- A session that comes from another by making directories. -/
structure Making (session after : Session) : Prop where
  rest : after = { session with tree := after.tree }
  grows : session.tree.OnlyNewDirectories after.tree
  wellFormed : session.tree.WellFormed → after.tree.WellFormed

namespace Making

variable {made after : Session}

theorem refl (session : Session) : session.Making session :=
  ⟨rfl, .refl session.tree, id⟩

theorem trans (h : session.Making made) (hafter : made.Making after) : session.Making after := by
  refine ⟨?_, h.grows.trans hafter.grows, hafter.wellFormed ∘ h.wellFormed⟩
  rw [hafter.rest, h.rest]

theorem directory_eq (h : session.Making made) : made.directory = session.directory := by
  rw [h.rest]

end Making

/-- An action that only makes directories. -/
def Makes (action : StateM Session α) : Prop :=
  ∀ session : Session, session.Making (session.run action).2

theorem makes_pure (a : α) : Makes (pure a) :=
  Making.refl

theorem Makes.bind {action : StateM Session α} {next : α → StateM Session β} (h : Makes action)
    (hnext : ∀ a, Makes (next a)) : Makes (action >>= next) :=
  fun session => (h session).trans (hnext _ _)

/-- Whether there is a directory at a path of the session. -/
def HasDirectory (session : Session) (path : Path) : Prop :=
  session.tree.isDirectory session.directory path = true

instance (session : Session) (path : Path) : Decidable (session.HasDirectory path) :=
  inferInstanceAs (Decidable (_ = true))

theorem run_createDirectory (path : Path)
    : session.run (createDirectory path)
        = session.update (session.tree.createDirectory session.directory path) := rfl

theorem run_ensureDirectory (path : Path)
    : session.run (ensureDirectory path)
        = match session.tree.createDirectory session.directory path with
          | .ok tree => (.ok (), { session with tree })
          | .error e =>
            if e = .alreadyThere ∧ session.HasDirectory path then (.ok (), session)
            else (.error e, session) := by
  unfold ensureDirectory
  rw [run_bind, run_createDirectory]
  cases h : session.tree.createDirectory session.directory path with
  | ok tree => rfl
  | error e =>
    show session.run (isDirectory path >>= _) = _
    rw [run_bind]
    show session.run (if e = .alreadyThere ∧ session.HasDirectory path then _ else _)
      = if e = .alreadyThere ∧ session.HasDirectory path then _ else _
    by_cases hthere : e = .alreadyThere ∧ session.HasDirectory path
    . rw [if_pos hthere, if_pos hthere, run_pure]
    . rw [if_neg hthere, if_neg hthere, run_pure]

/-- A directory that is there is not made. -/
theorem run_ensureDirectory_of_hasDirectory {path : Path} (h : session.HasDirectory path)
    : session.run (ensureDirectory path) = (.ok (), session) := by
  rw [run_ensureDirectory, Tree.createDirectory_eq_alreadyThere h]
  exact if_pos ⟨rfl, h⟩

theorem makes_ensureDirectory (path : Path) : Makes (ensureDirectory path) := by
  intro session
  rw [run_ensureDirectory]
  split
  . next tree h =>
    exact ⟨rfl, Tree.onlyNewDirectories_of_createDirectory h, fun hformed =>
      hformed.createDirectory h⟩
  . split <;> exact .refl session

theorem hasDirectory_of_ensureDirectory {path : Path}
    (h : (session.run (ensureDirectory path)).1 = .ok ())
    : (session.run (ensureDirectory path)).2.HasDirectory path := by
  rw [run_ensureDirectory] at h ⊢
  split
  . next tree hmade => exact Tree.isDirectory_of_createDirectory hmade
  . next e hmade =>
    rw [hmade] at h
    split
    . next hthere => exact hthere.2
    . next hthere => simp [hthere] at h

theorem makes_createChain (paths : List Path) : Makes (createChain paths) := by
  induction paths with
  | nil => exact makes_pure _
  | cons path above ih =>
    unfold createChain
    refine (makes_ensureDirectory path).bind fun result => ?_
    split
    . refine ih.bind fun result => ?_
      split
      . exact makes_pure _
      . exact makes_ensureDirectory path
    . exact makes_pure result

theorem run_createChain_of_ne {path : Path} {above : List Path}
    (h : (session.run (ensureDirectory path)).1 ≠ .error .notFound)
    : session.run (createChain (path :: above)) = session.run (ensureDirectory path) := by
  rw [createChain, run_bind]
  split
  . next heq => exact absurd heq h
  . rw [run_pure]

theorem run_createChain_of_ok {path : Path} {above : List Path}
    (h : (session.run (createChain (path :: above))).1 = .ok ())
    : ∃ between : Session,
        session.run (createChain (path :: above)) = between.run (ensureDirectory path) := by
  by_cases hfirst : (session.run (ensureDirectory path)).1 = .error .notFound
  . rw [createChain, run_bind, hfirst] at h ⊢
    dsimp only at h ⊢
    rw [run_bind] at h ⊢
    generalize (session.run (ensureDirectory path)).2.run (createChain above) = second at h ⊢
    obtain ⟨result, made⟩ := second
    cases result with
    | error e => simp [run_pure] at h
    | ok _ => exact ⟨made, rfl⟩
  . exact ⟨session, run_createChain_of_ne hfirst⟩

theorem makes_createDirectories (path : Path) : Makes (createDirectories path) :=
  makes_createChain _

/-- The first directory to make is that of the path itself. -/
theorem exists_chain {path : Path} (h : ¬path.IsBare)
    : ∃ above, (createDirectories path : StateM Session _) = createChain (path :: above) := by
  unfold Path.IsBare at h
  rw [not_or] at h
  refine ⟨_, congrArg createChain (List.takeWhile_cons_of_pos ?_)⟩
  simp [h]

theorem run_createDirectories_of_isBare {path : Path} (h : path.IsBare)
    : session.run (createDirectories path) = (.ok (), session) := by
  unfold createDirectories
  rw [Path.ancestors, List.takeWhile_cons_of_neg]
  . rfl
  . rcases h with h | h <;> simp [h]

theorem hasDirectory_of_createDirectories {path : Path} (hbare : ¬path.IsBare)
    (h : (session.run (createDirectories path)).1 = .ok ())
    : (session.run (createDirectories path)).2.HasDirectory path := by
  obtain ⟨above, hchain⟩ := exists_chain hbare
  rw [hchain] at h ⊢
  obtain ⟨between, heq⟩ := run_createChain_of_ok h
  rw [heq] at h ⊢
  exact hasDirectory_of_ensureDirectory h

/-- Nothing is made just if the directory is there, or is none that could be made. -/
theorem createDirectories_tree_eq_iff {path : Path}
    (h : (session.run (createDirectories path)).1 = .ok ())
    : (session.run (createDirectories path)).2.tree = session.tree
        ↔ path.IsBare ∨ session.HasDirectory path := by
  by_cases hbare : path.IsBare
  . rw [run_createDirectories_of_isBare hbare]
    simp [hbare]
  . constructor
    . intro htree
      have hmade := hasDirectory_of_createDirectories hbare h
      unfold HasDirectory at hmade
      rw [htree, (makes_createDirectories path session).directory_eq] at hmade
      exact .inr hmade
    . rintro (h | hthere)
      . exact absurd h hbare
      . obtain ⟨above, hchain⟩ := exists_chain hbare
        have hfirst := run_ensureDirectory_of_hasDirectory hthere
        rw [hchain, run_createChain_of_ne (by simp [hfirst]), hfirst]

/-- The directory that is made, or was there, is where the path leads. -/
theorem exists_reaches_of_createDirectories {path : Path} (hempty : path.written ≠ "")
    (h : (session.run (createDirectories path)).1 = .ok ())
    : ∃ place, (session.run (createDirectories path)).2.tree.Reaches session.directory path
        place := by
  by_cases hbare : path.IsBare
  . rw [run_createDirectories_of_isBare hbare]
    exact Tree.exists_reaches_of_isBare hempty hbare
  . have hmade := hasDirectory_of_createDirectories hbare h
    unfold HasDirectory at hmade
    rw [(makes_createDirectories path session).directory_eq] at hmade
    obtain ⟨place, hlocate⟩ := Tree.isDirectory_iff.mp hmade
    exact ⟨place, .located hlocate⟩

end DirectedMarkdown.Session
