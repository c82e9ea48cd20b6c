import DirectedMarkdown.Proofs.Command.Run

/-!
This module contains the writing of renderings one after the other. As long as no two of them go to
one place, each is written, or is not, as if it were the only one.
-/

namespace DirectedMarkdown.Command

open Surroundings Session

variable {session : Session}

/-- The line that says why a file has no rendering. -/
def warning (input : Path) (reason : String) : String :=
  "Failed to render " ++ input.written ++ ": " ++ reason

namespace Rendering

/-- The place that a rendering is written to and its text, or the reason why it is not written. -/
def outcome (rendering : Rendering) (tree : Tree) (directory : Place)
    : Except String (Place × String) :=
  match rendering.result with
  | .error e => .error e.message
  | .ok html =>
    match tree.fileTarget directory rendering.target with
    | .error e => .error e.message
    | .ok place => .ok (place, html)

theorem outcome_eq_ok_iff {rendering : Rendering} {tree : Tree} {directory place : Place}
    {html : String}
    : rendering.outcome tree directory = .ok (place, html)
        ↔ rendering.result = .ok html
          ∧ tree.fileTarget directory rendering.target = .ok place := by
  unfold outcome
  cases rendering.result with
  | error e => simp
  | ok text => cases tree.fileTarget directory rendering.target <;> simp [and_comm]

/-- The line that is shown for a rendering, if it is not written. -/
def warning? (rendering : Rendering) (tree : Tree) (directory : Place) : Option String :=
  match rendering.outcome tree directory with
  | .error reason => some (warning rendering.input reason)
  | .ok _ => none

theorem run_write (rendering : Rendering)
    : session.run rendering.write
        = match rendering.outcome session.tree session.directory with
          | .error reason =>
            (false, { session with
              reports := session.reports ++ [warning rendering.input reason] })
          | .ok (place, html) =>
            (true, { session with tree := session.tree.insert place (.file html.toUTF8) }) := by
  unfold write outcome
  dsimp only
  cases rendering.result with
  | error e => rfl
  | ok html =>
    dsimp only
    rw [run_bind, run_writeFile, Tree.writeFile_eq]
    cases session.tree.fileTarget session.directory rendering.target <;> rfl

end Rendering

/-- Renderings that do not get in the way of each other. -/
structure Apart (tree : Tree) (directory : Place) (renderings : List Rendering) : Prop where
  endsAt : ∀ rendering ∈ renderings,
    ∃ parent last, tree.EndsAt directory rendering.target parent last
  place_ne : renderings.Pairwise fun rendering other => ∀ place otherPlace,
    tree.fileTarget directory rendering.target = .ok place →
    tree.fileTarget directory other.target = .ok otherPlace → place ≠ otherPlace

/-- What the writing of renderings comes to, in view of the tree before. -/
structure WrittenAll (session : Session) (renderings : List Rendering) (failed : Nat)
    (after : Session) : Prop where
  rest : after = { session with
    tree := after.tree,
    reports := session.reports
      ++ renderings.filterMap (·.warning? session.tree session.directory) }
  failed_eq : failed = (renderings.filterMap (·.warning? session.tree session.directory)).length
  sameDirectories : session.tree.SameDirectories after.tree
  written : ∀ rendering ∈ renderings, ∀ place html,
    rendering.outcome session.tree session.directory = .ok (place, html) →
    after.tree.find? place = some (.file html.toUTF8)
  kept : ∀ place, (∀ rendering ∈ renderings, ∀ html,
      rendering.outcome session.tree session.directory ≠ .ok (place, html)) →
    after.tree.find? place = session.tree.find? place

theorem outcome_eq_of_sameDirectories {tree other : Tree} {directory : Place}
    {renderings : List Rendering} (h : Apart tree directory renderings)
    (hsame : tree.SameDirectories other) {rendering : Rendering} (hmem : rendering ∈ renderings)
    : rendering.outcome other directory = rendering.outcome tree directory := by
  obtain ⟨parent, last, hends⟩ := h.endsAt rendering hmem
  unfold Rendering.outcome
  rw [hends.fileTarget_eq hsame]

theorem warning?_eq_of_sameDirectories {tree other : Tree} {directory : Place}
    {renderings : List Rendering} (h : Apart tree directory renderings)
    (hsame : tree.SameDirectories other) {rendering : Rendering} (hmem : rendering ∈ renderings)
    : rendering.warning? other directory = rendering.warning? tree directory := by
  unfold Rendering.warning?
  rw [outcome_eq_of_sameDirectories h hsame hmem]

theorem Apart.of_sameDirectories {tree other : Tree} {directory : Place}
    {renderings : List Rendering} (h : Apart tree directory renderings)
    (hsame : tree.SameDirectories other) : Apart other directory renderings := by
  constructor
  . intro rendering hmem
    obtain ⟨parent, last, hends⟩ := h.endsAt rendering hmem
    exact ⟨parent, last, hends.of_sameDirectories hsame⟩
  . refine h.place_ne.imp fun hne place otherPlace hplace hother => ?_
    exact hne place otherPlace (hsame.fileTarget_eq_ok_iff.mpr hplace)
      (hsame.fileTarget_eq_ok_iff.mpr hother)

theorem Apart.of_append {tree : Tree} {directory : Place} {front back : List Rendering}
    (h : Apart tree directory (front ++ back)) : Apart tree directory back := by
  refine ⟨fun rendering hmem => h.endsAt rendering (List.mem_append_right _ hmem), ?_⟩
  exact (List.pairwise_append.mp h.place_ne).2.1

theorem Apart.tail {tree : Tree} {directory : Place} {rendering : Rendering}
    {rest : List Rendering} (h : Apart tree directory (rendering :: rest))
    : Apart tree directory rest :=
  ⟨fun other hmem => h.endsAt other (List.mem_cons_of_mem _ hmem), h.place_ne.of_cons⟩

namespace WrittenAll

variable {between after : Session} {front back : List Rendering} {failed more : Nat}

theorem directory_eq (h : WrittenAll session front failed between)
    : between.directory = session.directory := by
  rw [h.rest]

theorem append (h : WrittenAll session front failed between)
    (hback : WrittenAll between back more after)
    (hapart : Apart session.tree session.directory (front ++ back))
    : WrittenAll session (front ++ back) (failed + more) after := by
  have houtcome : ∀ rendering ∈ back, rendering.outcome between.tree between.directory
      = rendering.outcome session.tree session.directory := by
    intro rendering hmem
    rw [h.directory_eq, outcome_eq_of_sameDirectories hapart.of_append h.sameDirectories hmem]
  have hwarnings : back.filterMap (·.warning? between.tree between.directory)
      = back.filterMap (·.warning? session.tree session.directory) := by
    apply List.filterMap_congr
    intro rendering hmem
    rw [h.directory_eq, warning?_eq_of_sameDirectories hapart.of_append h.sameDirectories hmem]
  constructor
  . rw [hback.rest, hwarnings, h.rest]
    simp [List.filterMap_append]
  . rw [h.failed_eq, hback.failed_eq, hwarnings, List.filterMap_append, List.length_append]
  . exact h.sameDirectories.trans hback.sameDirectories
  . intro rendering hmem place html hwritten
    rcases List.mem_append.mp hmem with hfront | hmem
    . -- What is written later does not go to the same place again.
      rw [hback.kept place, h.written rendering hfront place html hwritten]
      intro other hother text htext
      rw [houtcome other hother, Rendering.outcome_eq_ok_iff] at htext
      rw [Rendering.outcome_eq_ok_iff] at hwritten
      have hne := (List.pairwise_append.mp hapart.place_ne).2.2 rendering hfront other hother
      exact hne place place hwritten.2 htext.2 rfl
    . exact hback.written rendering hmem place html ((houtcome rendering hmem).trans hwritten)
  . intro place hnone
    rw [hback.kept place, h.kept place]
    . intro rendering hmem
      exact hnone rendering (List.mem_append_left _ hmem)
    . intro rendering hmem html
      rw [houtcome rendering hmem]
      exact hnone rendering (List.mem_append_right _ hmem) html

end WrittenAll

theorem writtenAll_singleton (session : Session) (rendering : Rendering)
    : WrittenAll session [rendering] (if (session.run rendering.write).1 then 0 else 1)
        (session.run rendering.write).2 := by
  rw [rendering.run_write]
  cases houtcome : rendering.outcome session.tree session.directory with
  | error reason =>
    have hwarning : rendering.warning? session.tree session.directory
        = some (warning rendering.input reason) := by
      unfold Rendering.warning?
      rw [houtcome]
    refine ⟨?_, ?_, .refl _, ?_, fun _ _ => rfl⟩
    . simp [hwarning]
    . simp [hwarning]
    . simp [houtcome]
  | ok item =>
    obtain ⟨place, html⟩ := item
    have hwarning : rendering.warning? session.tree session.directory = none := by
      unfold Rendering.warning?
      rw [houtcome]
    obtain ⟨hleads, hplace⟩ :=
      Tree.fileTarget_eq_ok_iff.mp (Rendering.outcome_eq_ok_iff.mp houtcome).2
    refine ⟨?_, ?_, .insert_file hplace hleads.ne_nil _, ?_, ?_⟩
    . simp [hwarning]
    . simp [hwarning]
    . simp [houtcome, Tree.find?_insert_self _ _ hleads.ne_nil]
    . intro other hother
      apply Tree.find?_insert_of_ne
      rintro rfl
      exact hother rendering (by simp) html houtcome

theorem run_writeAll_cons (rendering : Rendering) (rest : List Rendering)
    : session.run (writeAll (rendering :: rest))
        = ((if (session.run rendering.write).1 then 0 else 1)
            + ((session.run rendering.write).2.run (writeAll rest)).1,
          ((session.run rendering.write).2.run (writeAll rest)).2) := by
  rw [writeAll, run_bind, run_bind, run_pure]
  split
  . rw [Nat.zero_add]
  . rw [Nat.add_comm]

/-- Every rendering is written, or not, as if it were the only one. -/
theorem writtenAll (renderings : List Rendering)
    (h : Apart session.tree session.directory renderings)
    : WrittenAll session renderings (session.run (writeAll renderings)).1
        (session.run (writeAll renderings)).2 := by
  induction renderings generalizing session with
  | nil =>
    refine ⟨?_, rfl, .refl _, by simp, fun _ _ => rfl⟩
    simp [writeAll, run_pure]
  | cons rendering rest ih =>
    rw [run_writeAll_cons]
    -- The rest is written to another tree, but directories are where they were, and they are all
    -- that the places of the rest depend on.
    have hfirst := writtenAll_singleton session rendering
    have hrest : Apart session.tree session.directory rest := h.tail
    have hnext := hrest.of_sameDirectories hfirst.sameDirectories
    rw [← hfirst.directory_eq] at hnext
    exact hfirst.append (ih hnext) h

end DirectedMarkdown.Command
