import DirectedMarkdown.File.Tree
import DirectedMarkdown.Proofs.Except
import DirectedMarkdown.Proofs.File.Path

/-!
This module contains what operations on a tree of files leave as it is. A path leads through
directories only, so that it leads to the same place as long as no directory is made or removed.
-/

namespace DirectedMarkdown.Tree

variable {tree other : Tree} {directory place : Place}

theorem locate_eq_ok_iff {path : Path} {place : Place} {entry : Entry}
    : tree.locate directory path = .ok (place, entry)
        ↔ ∃ origin, start directory path = .ok origin
            ∧ tree.walk origin path.pieces = .ok place ∧ tree.find? place = some entry := by
  unfold locate
  cases start directory path with
  | error e => simp
  | ok origin =>
    dsimp only
    cases hwalk : tree.walk origin path.pieces with
    | error e => simp [hwalk]
    | ok found =>
      dsimp only
      cases hfind : tree.find? found with
      | none =>
        simp only [reduceCtorEq, Except.ok.injEq, exists_eq_left', hwalk, false_iff, not_and]
        rintro rfl
        simp [hfind]
      | some other =>
        simp only [Except.ok.injEq, Prod.mk.injEq, exists_eq_left', hwalk]
        constructor
        . rintro ⟨rfl, rfl⟩
          exact ⟨rfl, hfind⟩
        . rintro ⟨rfl, heq⟩
          exact ⟨rfl, Option.some.inj (hfind.symm.trans heq)⟩

theorem readFile_eq_ok_iff {path : Path} {text : String}
    : tree.readFile directory path = .ok text
        ↔ ∃ place content, tree.locate directory path = .ok (place, .file content)
            ∧ String.fromUTF8? content = some text := by
  unfold readFile
  cases hlocate : tree.locate directory path with
  | error e => simp
  | ok item =>
    obtain ⟨place, entry⟩ := item
    cases entry with
    | directory => simp
    | file content => cases hutf8 : String.fromUTF8? content <;> simp [hutf8]

theorem start_eq_ok_iff {path : Path} {origin : Place}
    : start directory path = .ok origin
        ↔ path.written ≠ "" ∧ path.holdsNul = false ∧ path.written.utf8ByteSize < pathLimit
          ∧ origin = if path.isAbsolute then [] else directory := by
  unfold start
  generalize pathLimit = limit
  split
  . next h => simp [String.isEmpty_iff.mp h]
  . next h =>
    have hne : path.written ≠ "" := fun heq => h (String.isEmpty_iff.mpr heq)
    split
    . next hnul => simp [hnul]
    . next hnul =>
      split
      . next hlong =>
        refine ⟨nofun, ?_⟩
        rintro ⟨_, _, hshort, _⟩
        exact absurd hshort (Nat.not_lt.mpr hlong)
      . next hshort =>
        rw [Except.ok.injEq, eq_comm]
        refine ⟨fun heq => ⟨hne, ?_, Nat.not_le.mp hshort, heq⟩, fun h => h.2.2.2⟩
        simpa using hnul

theorem child_eq_ok_iff {name : String} {found : Place}
    : tree.child place name = .ok found
        ↔ tree.find? place = some .directory ∧ name.utf8ByteSize ≤ nameLimit
          ∧ found = place ++ [name] := by
  unfold child
  cases tree.find? place with
  | none => simp
  | some entry =>
    cases entry with
    | file content => simp
    | directory =>
      by_cases h : nameLimit < name.utf8ByteSize
      . simp [h, Nat.not_le.mpr h]
      . simp [h, Nat.le_of_not_lt h, eq_comm]

theorem find?_of_step {piece : List Char} {found : Place} (h : tree.step place piece = .ok found)
    : tree.find? place = some .directory := by
  unfold step at h
  split at h
  . cases hfind : tree.find? place with
    | none => simp [hfind] at h
    | some entry => cases entry <;> simp_all
  . exact (child_eq_ok_iff.mp h).1

/-- A step depends on nothing but that it is taken in a directory. -/
theorem step_congr (h : tree.find? place = some .directory)
    (hother : other.find? place = some .directory) (piece : List Char)
    : tree.step place piece = other.step place piece := by
  unfold step child
  rw [h, hother]

theorem step_blank {piece : List Char} (h : tree.find? place = some .directory)
    (hblank : piece = [] ∨ piece = ['.']) : tree.step place piece = .ok place := by
  unfold step
  rcases hblank with rfl | rfl <;> simp [h]

theorem step_parent (h : tree.find? place = some .directory)
    : tree.step place ['.', '.'] = .ok place.dropLast := by
  unfold step
  simp [h]

theorem step_name {name : List Char} (hname : Path.IsName name)
    : tree.step place name = tree.child place (String.ofList name) := by
  unfold step
  rw [if_neg]
  simp [hname.ne_nil, hname.ne_current, hname.ne_parent]

theorem walk_append (xs ys : List (List Char))
    : tree.walk place (xs ++ ys) = (tree.walk place xs).bind (tree.walk · ys) := by
  induction xs generalizing place with
  | nil => rfl
  | cons x xs ih =>
    rw [List.cons_append, walk, walk]
    cases tree.step place x with
    | error e => rfl
    | ok next => exact ih

theorem walk_concat (xs : List (List Char)) (piece : List Char)
    : tree.walk place (xs ++ [piece]) = (tree.walk place xs).bind (tree.step · piece) := by
  rw [walk_append]
  congr
  funext next
  rw [walk]
  cases tree.step next piece <;> rfl

theorem walk_blanks {blanks : List (List Char)} (hdirectory : tree.find? place = some .directory)
    (h : ∀ blank ∈ blanks, blank = [] ∨ blank = ['.']) : tree.walk place blanks = .ok place := by
  induction blanks with
  | nil => rfl
  | cons blank blanks ih =>
    rw [List.forall_mem_cons] at h
    rw [walk, step_blank hdirectory h.1]
    exact ih h.2

theorem eq_of_walk_blanks {blanks : List (List Char)} {found : Place}
    (hblanks : ∀ blank ∈ blanks, blank = [] ∨ blank = ['.'])
    (h : tree.walk place blanks = .ok found) : found = place := by
  cases blanks with
  | nil => exact (Except.ok.inj h).symm
  | cons blank blanks =>
    have hdirectory : tree.find? place = some .directory := by
      rw [walk] at h
      cases hstep : tree.step place blank with
      | error e => simp [hstep] at h
      | ok next => exact find?_of_step hstep
    rw [walk_blanks hdirectory hblanks, Except.ok.injEq] at h
    exact h.symm

/-- Two trees with directories at the same places. -/
def SameDirectories (tree other : Tree) : Prop :=
  ∀ place, tree.find? place = some .directory ↔ other.find? place = some .directory

namespace SameDirectories

theorem refl (tree : Tree) : tree.SameDirectories tree :=
  fun _ => Iff.rfl

theorem trans {third : Tree} (h : tree.SameDirectories other) (hother : other.SameDirectories third)
    : tree.SameDirectories third :=
  fun place => (h place).trans (hother place)

theorem insert_file (h : tree.find? place ≠ some .directory) (hne : place ≠ [])
    (content : ByteArray)
    : tree.SameDirectories (tree.insert place (.file content)) := by
  intro queried
  by_cases heq : queried = place
  . subst heq
    simp [h, find?_insert_self tree _ hne]
  . rw [find?_insert_of_ne tree _ heq]

end SameDirectories

/-- A walk through directories goes the same way where these are directories, too. -/
theorem walk_of_directories (hdirectories : ∀ place, tree.find? place = some .directory →
      other.find? place = some .directory) {pieces : List (List Char)} {found : Place}
    (h : tree.walk place pieces = .ok found) : other.walk place pieces = .ok found := by
  induction pieces generalizing place with
  | nil => exact h
  | cons piece rest ih =>
    rw [walk] at h ⊢
    cases hstep : tree.step place piece with
    | error e => simp [hstep] at h
    | ok next =>
      have hfind := find?_of_step hstep
      rw [step_congr (hdirectories _ hfind) hfind, hstep]
      simp only [hstep] at h
      exact ih h

/-- A path leads to the same place where all directories on its way are still there. -/
theorem locate_of_directories (hdirectories : ∀ place, tree.find? place = some .directory →
      other.find? place = some .directory) {path : Path} {entry otherEntry : Entry}
    (h : tree.locate directory path = .ok (place, entry))
    (hfind : other.find? place = some otherEntry)
    : other.locate directory path = .ok (place, otherEntry) := by
  obtain ⟨origin, hstart, hwalk, _⟩ := locate_eq_ok_iff.mp h
  exact locate_eq_ok_iff.mpr ⟨origin, hstart, walk_of_directories hdirectories hwalk, hfind⟩

/--
A path leads to a place that need not be there: all before its last name leads to a directory.
Behind the name there may be slashes.
-/
inductive LeadsTo (tree : Tree) (directory : Place) (path : Path)
    : List (List Char) → Place → Prop where
  | child {origin parent found : Place} {before blanks : List (List Char)} {last : List Char}
    (hstart : start directory path = .ok origin)
    (hpieces : path.pieces = before ++ last :: blanks)
    (hblanks : ∀ blank ∈ blanks, blank = [])
    (hlast : Path.IsName last)
    (hwalk : tree.walk origin before = .ok parent)
    (hchild : tree.child parent (String.ofList last) = .ok found)
    : LeadsTo tree directory path blanks found

/-- The slashes at the end of a path are passed over. -/
theorem exists_blanks {pieces : List (List Char)} {last : List Char} {before : List (List Char)}
    (h : pieces.reverse.dropWhile List.isEmpty = last :: before)
    : ∃ blanks, pieces = before.reverse ++ last :: blanks ∧ (∀ blank ∈ blanks, blank = [])
        ∧ last ≠ [] ∧ (pieces.reverse.head? ≠ some [] → blanks = []) := by
  have hreverse := List.takeWhile_append_dropWhile (p := List.isEmpty) (l := pieces.reverse)
  have hempty : ∀ blank ∈ pieces.reverse.takeWhile List.isEmpty, blank = [] :=
    fun blank hblank => List.isEmpty_iff.mp (List.all_eq_true.mp List.all_takeWhile blank hblank)
  have hne := List.head?_dropWhile_not List.isEmpty pieces.reverse
  rw [h] at hreverse hne
  generalize pieces.reverse.takeWhile List.isEmpty = blanks at hreverse hempty
  refine ⟨blanks.reverse, ?_, by simpa using hempty, by simpa using hne, ?_⟩
  . have hpieces := congrArg List.reverse hreverse
    rw [List.reverse_reverse, List.reverse_append, List.reverse_cons, List.append_assoc,
      List.singleton_append] at hpieces
    exact hpieces.symm
  . intro hhead
    cases blanks with
    | nil => rfl
    | cons blank blanks =>
      rw [hempty blank (by simp)] at hreverse
      simp [← hreverse] at hhead

theorem leadsTo_of_target {path : Path} {found : Place} {endsInSlash : Bool}
    (h : tree.target directory path = .ok (.place found endsInSlash))
    : ∃ blanks, tree.LeadsTo directory path blanks found ∧ (endsInSlash = false → blanks = []) := by
  unfold target at h
  dsimp only at h
  split at h
  . simp at h
  . next origin hstart =>
    split at h
    . simp at h
    . next last before hdrop =>
      split at h
      . simp at h
      . next parent hwalk =>
        split at h
        . obtain ⟨_, _, h⟩ := except_map_eq_ok h
          simp at h
        . next hdots =>
          rw [not_or] at hdots
          obtain ⟨child, hchild, h⟩ := except_map_eq_ok h
          obtain ⟨rfl, rfl⟩ := Target.place.inj h
          obtain ⟨blanks, hpieces, hblanks, hne, hnil⟩ := exists_blanks hdrop
          have hmem : last ∈ path.pieces := by
            rw [hpieces]
            simp
          have hname : Path.IsName last :=
            ⟨hne, Path.slash_notMem_of_mem_pieces hmem, hdots.1, hdots.2⟩
          refine ⟨blanks, .child hstart hpieces hblanks hname hwalk hchild, fun hhead => ?_⟩
          exact hnil (by simpa using hhead)

namespace LeadsTo

variable {path : Path} {blanks : List (List Char)} {found : Place}

theorem ne_nil (h : tree.LeadsTo directory path blanks found) : found ≠ [] := by
  cases h with
  | child _ _ _ _ _ hchild => simp [(child_eq_ok_iff.mp hchild).2.2]

/-- A path leads to the same place in a tree with more directories. -/
theorem of_directories (h : tree.LeadsTo directory path blanks found)
    (hdirectories : ∀ place, tree.find? place = some .directory →
      other.find? place = some .directory)
    : other.LeadsTo directory path blanks found := by
  cases h with
  | child hstart hpieces hblanks hlast hwalk hchild =>
    refine .child hstart hpieces hblanks hlast (walk_of_directories hdirectories hwalk) ?_
    rw [child_eq_ok_iff] at hchild ⊢
    exact ⟨hdirectories _ hchild.1, hchild.2⟩

theorem locate_eq (h : tree.LeadsTo directory path blanks found)
    (hend : blanks = [] ∨ tree.find? found = some .directory)
    : tree.locate directory path
        = match tree.find? found with
          | none => .error .notFound
          | some entry => .ok (found, entry) := by
  cases h with
  | @child origin _ _ _ _ _ hstart hpieces hblanks hlast hwalk hchild =>
    have hend : tree.walk found blanks = .ok found := by
      cases hend with
      | inl hnil => rw [hnil, walk]
      | inr hfind => exact walk_blanks hfind fun blank hblank => .inl (hblanks blank hblank)
    have hfound : tree.walk origin path.pieces = .ok found := by
      rw [hpieces, walk_append, hwalk]
      simp only [Except.bind, walk, step_name hlast, hchild, hend]
    unfold locate
    cases hfind : tree.find? found <;> simp only [hstart, hfound, hfind]

end LeadsTo

/-- The place that a text is written to at a path. -/
def fileTarget (tree : Tree) (directory : Place) (path : Path) : Except FileError Place :=
  match tree.target directory path with
  | .error e => .error e
  | .ok .directory | .ok (.place _ true) => .error .isDirectory
  | .ok (.place place false) =>
    match tree.find? place with
    | some .directory => .error .isDirectory
    | _ => .ok place

theorem writeFile_eq (tree : Tree) (directory : Place) (path : Path) (text : String)
    : tree.writeFile directory path text
        = (tree.fileTarget directory path).map fun place =>
            tree.insert place (.file text.toUTF8) := by
  unfold writeFile fileTarget
  cases tree.target directory path with
  | error e => rfl
  | ok target =>
    cases target with
    | directory => rfl
    | place place endsInSlash =>
      cases endsInSlash with
      | true => rfl
      | false =>
        cases hfind : tree.find? place with
        | none => simp only [hfind, Except.map]
        | some entry => cases entry <;> simp only [hfind, Except.map]

theorem fileTarget_eq_ok_iff {path : Path} {found : Place}
    : tree.fileTarget directory path = .ok found
        ↔ tree.LeadsTo directory path [] found ∧ tree.find? found ≠ some .directory := by
  constructor
  . intro h
    unfold fileTarget at h
    split at h
    . simp at h
    . simp at h
    . simp at h
    . next place htarget =>
      obtain ⟨blanks, hleads, hblanks⟩ := leadsTo_of_target htarget
      rw [hblanks rfl] at hleads
      split at h
      . simp at h
      . next hfind =>
        rw [← Except.ok.inj h]
        exact ⟨hleads, hfind⟩
  . rintro ⟨hleads, hfind⟩
    cases hleads with
    | @child origin parent _ before _ last hstart hpieces hblanks hlast hwalk hchild =>
      have htarget : tree.target directory path = .ok (.place found false) := by
        have hreverse : path.pieces.reverse = last :: before.reverse := by simp [hpieces]
        have hdrop : (last :: before.reverse).dropWhile List.isEmpty = last :: before.reverse := by
          rw [List.dropWhile_cons_of_neg (by simpa using hlast.ne_nil)]
        unfold target
        simp only [hstart, hreverse, hdrop, List.reverse_reverse, hwalk, hchild]
        simp [hlast.ne_nil, hlast.ne_current, hlast.ne_parent, Except.map]
      unfold fileTarget
      rw [htarget]
      dsimp only
      split <;> simp_all

theorem SameDirectories.fileTarget_eq_ok_iff (h : tree.SameDirectories other) {path : Path}
    {found : Place}
    : tree.fileTarget directory path = .ok found ↔ other.fileTarget directory path = .ok found := by
  rw [Tree.fileTarget_eq_ok_iff, Tree.fileTarget_eq_ok_iff, Ne, Ne, h found]
  refine and_congr_left fun _ => ⟨fun hleads => ?_, fun hleads => ?_⟩
  . exact hleads.of_directories fun place => (h place).mp
  . exact hleads.of_directories fun place => (h place).mpr

theorem readFile_of_fileTarget {path : Path} {found : Place} {text : String}
    (h : tree.fileTarget directory path = .ok found)
    (hfind : other.find? found = some (.file text.toUTF8))
    (hsame : tree.SameDirectories other) : other.readFile directory path = .ok text := by
  have hleads := (Tree.fileTarget_eq_ok_iff.mp (hsame.fileTarget_eq_ok_iff.mp h)).1
  have hutf8 : String.fromUTF8? text.toUTF8 = some text := by
    simp only [String.fromUTF8?, Option.dite_none_right_eq_some]
    exact ⟨text.isValidUTF8, rfl⟩
  unfold readFile
  rw [hleads.locate_eq (.inl rfl), hfind]
  simp only [hutf8]

/-- A tree in which nothing but directories is new. -/
def OnlyNewDirectories (tree other : Tree) : Prop :=
  ∀ place, other.find? place = tree.find? place
    ∨ tree.find? place = none ∧ other.find? place = some .directory

namespace OnlyNewDirectories

theorem refl (tree : Tree) : tree.OnlyNewDirectories tree :=
  fun _ => .inl rfl

theorem trans {third : Tree} (h : tree.OnlyNewDirectories other)
    (hother : other.OnlyNewDirectories third) : tree.OnlyNewDirectories third := by
  intro place
  rcases h place with heq | ⟨hnone, hfind⟩
  . rw [← heq]
    exact hother place
  . right
    rcases hother place with heq | ⟨hother, _⟩
    . exact ⟨hnone, heq.trans hfind⟩
    . simp [hfind] at hother

theorem directories (h : tree.OnlyNewDirectories other)
    : ∀ place, tree.find? place = some .directory → other.find? place = some .directory := by
  intro place hfind
  rcases h place with heq | ⟨_, hdirectory⟩
  . rw [heq, hfind]
  . exact hdirectory

end OnlyNewDirectories

theorem exists_of_createDirectory {path : Path} {after : Tree}
    (h : tree.createDirectory directory path = .ok after)
    : ∃ blanks found, tree.LeadsTo directory path blanks found ∧ tree.find? found = none
        ∧ after = tree.insert found .directory := by
  unfold createDirectory at h
  split at h
  . simp at h
  . simp at h
  . next place endsInSlash htarget =>
    obtain ⟨blanks, hleads, _⟩ := leadsTo_of_target htarget
    split at h
    . simp at h
    . next hnone => exact ⟨blanks, place, hleads, hnone, (Except.ok.inj h).symm⟩

theorem onlyNewDirectories_of_createDirectory {path : Path} {after : Tree}
    (h : tree.createDirectory directory path = .ok after) : tree.OnlyNewDirectories after := by
  obtain ⟨blanks, found, hleads, hnone, rfl⟩ := exists_of_createDirectory h
  intro place
  by_cases heq : place = found
  . subst heq
    exact .inr ⟨hnone, find?_insert_self tree _ hleads.ne_nil⟩
  . exact .inl (find?_insert_of_ne tree _ heq)

theorem isDirectory_of_createDirectory {path : Path} {after : Tree}
    (h : tree.createDirectory directory path = .ok after)
    : after.isDirectory directory path = true := by
  have hnew := onlyNewDirectories_of_createDirectory h
  obtain ⟨blanks, found, hleads, hnone, rfl⟩ := exists_of_createDirectory h
  have hfind := find?_insert_self tree .directory hleads.ne_nil
  unfold isDirectory
  rw [(hleads.of_directories hnew.directories).locate_eq (.inr hfind), hfind]

theorem isDirectory_iff {path : Path}
    : tree.isDirectory directory path = true
        ↔ ∃ place, tree.locate directory path = .ok (place, .directory) := by
  unfold isDirectory
  split
  . next place h => simp [h]
  . next h => simpa using h

/-- A directory is not made where one is. -/
theorem createDirectory_eq_alreadyThere {path : Path}
    (h : tree.isDirectory directory path = true)
    : tree.createDirectory directory path = .error .alreadyThere := by
  obtain ⟨place, hlocate⟩ := isDirectory_iff.mp h
  obtain ⟨origin, hstart, hwalk, hdirectory⟩ := locate_eq_ok_iff.mp hlocate
  unfold createDirectory target
  rw [hstart]
  dsimp only
  cases hdrop : path.pieces.reverse.dropWhile List.isEmpty with
  | nil => rfl
  | cons last before =>
    obtain ⟨blanks, hpieces, hblanks, hne, _⟩ := exists_blanks hdrop
    rw [hpieces, walk_append] at hwalk
    cases hparent : tree.walk origin before.reverse with
    | error e => simp [hparent, Except.bind] at hwalk
    | ok parent =>
      simp only [hparent, Except.bind, walk] at hwalk
      cases hstep : tree.step parent last with
      | error e => simp [hstep] at hwalk
      | ok next =>
        simp only [hstep] at hwalk
        obtain rfl := eq_of_walk_blanks (fun blank hblank => .inl (hblanks blank hblank)) hwalk
        simp only [hparent]
        by_cases hdots : last = ['.'] ∨ last = ['.', '.']
        . rw [if_pos hdots, hstep]
          rfl
        . rw [if_neg hdots]
          rw [not_or] at hdots
          have hmem : last ∈ path.pieces := by
            rw [hpieces]
            simp
          rw [step_name ⟨hne, Path.slash_notMem_of_mem_pieces hmem, hdots.1, hdots.2⟩] at hstep
          simp only [hstep, Except.map, hdirectory]

end DirectedMarkdown.Tree
