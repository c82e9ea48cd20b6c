import DirectedMarkdown.Proofs.File.Tree

/-!
This module contains paths that end in one piece behind a directory: where they lead in a tree is
settled by that piece alone, and by what stands there.
-/

namespace DirectedMarkdown.Tree

variable {tree other : Tree} {directory : Place}

/-- What stands in a tree stands in a directory. -/
def WellFormed (tree : Tree) : Prop :=
  ∀ place entry, tree.find? place = some entry → tree.find? place.dropLast = some .directory

theorem wellFormed_of_entries
    (h : ∀ item ∈ tree.entries, tree.find? item.1.dropLast = some .directory)
    : tree.WellFormed := by
  intro place entry hfind
  by_cases hplace : place = []
  . subst hplace
    rfl
  . have hlookup : tree.entries.lookup place = some entry := by
      simpa [find?, hplace] using hfind
    obtain ⟨front, back, heq, _⟩ := List.lookup_eq_some_iff.mp hlookup
    exact h (place, entry) (by simp [heq])

/-- A path to a file ends in the name that the file has in its directory. -/
theorem WellFormed.exists_name (hformed : tree.WellFormed) {path : Path} {place : Place}
    {content : ByteArray} (h : tree.locate directory path = .ok (place, .file content))
    : ∃ parent name, path.fileName? = some name ∧ place = parent ++ [name] := by
  obtain ⟨origin, _, hwalk, hfile⟩ := locate_eq_ok_iff.mp h
  have hne : path.pieces ≠ [] := Path.pieces_eq path ▸ List.splitOn_ne_nil '/' path.chars
  obtain ⟨before, last, hpieces⟩ : ∃ before last, path.pieces = before ++ [last] :=
    ⟨_, _, (List.dropLast_append_getLast hne).symm⟩
  rw [hpieces, walk_concat] at hwalk
  cases hparent : tree.walk origin before with
  | error e => simp [hparent, Except.bind] at hwalk
  | ok parent =>
    simp only [hparent, Except.bind] at hwalk
    have hdirectory := find?_of_step hwalk
    -- A step that is not to a name stays among directories.
    have hname : Path.IsName last := by
      refine ⟨?_, Path.slash_notMem_of_mem_pieces (hpieces ▸ by simp : last ∈ path.pieces), ?_, ?_⟩
      . rintro rfl
        rw [step_blank hdirectory (.inl rfl), Except.ok.injEq] at hwalk
        simp [← hwalk, hdirectory] at hfile
      . rintro rfl
        rw [step_blank hdirectory (.inr rfl), Except.ok.injEq] at hwalk
        simp [← hwalk, hdirectory] at hfile
      . rintro rfl
        rw [step_parent hdirectory, Except.ok.injEq] at hwalk
        rw [← hwalk, hformed parent _ hdirectory] at hfile
        simp at hfile
    obtain ⟨front, hfront, hpath⟩ := Path.exists_front_of_pieces hpieces
    have hend := Path.fileName?_name hfront hname .nil
    rw [List.append_nil, ← hpath] at hend
    rw [step_name hname] at hwalk
    exact ⟨parent, _, hend, (child_eq_ok_iff.mp hwalk).2.2⟩

/-- Where a file can be read, its path ends in a name. -/
theorem WellFormed.exists_fileName? (hformed : tree.WellFormed) {path : Path} {text : String}
    (h : tree.readFile directory path = .ok text) : ∃ name, path.fileName? = some name := by
  obtain ⟨place, content, hlocate, _⟩ := readFile_eq_ok_iff.mp h
  obtain ⟨_, name, hname, _⟩ := hformed.exists_name hlocate
  exact ⟨name, hname⟩

theorem WellFormed.createDirectory (h : tree.WellFormed) {path : Path}
    (hmade : tree.createDirectory directory path = .ok other) : other.WellFormed := by
  have hnew := onlyNewDirectories_of_createDirectory hmade
  obtain ⟨blanks, found, hleads, hnone, rfl⟩ := exists_of_createDirectory hmade
  intro place entry hfind
  apply hnew.directories
  by_cases heq : place = found
  . cases hleads with
    | child _ _ _ _ _ hchild =>
      obtain ⟨hdirectory, _, rfl⟩ := child_eq_ok_iff.mp hchild
      rwa [heq, List.dropLast_concat]
  . rw [find?_insert_of_ne tree _ heq] at hfind
    exact h place entry hfind

/-- A path whose last piece stands behind the directory `parent`, if it leads anywhere. -/
structure EndsAt (tree : Tree) (directory : Place) (path : Path) (parent : Place)
    (last : List Char) : Prop where
  ne_nil : last ≠ []
  isDirectory : tree.find? parent = some .directory
  walk : ∀ origin, start directory path = .ok origin →
    ∃ before, path.pieces = before ++ [last] ∧ tree.walk origin before = .ok parent

namespace EndsAt

variable {path : Path} {parent : Place} {last : List Char}

theorem of_fileTarget (h : tree.EndsAt directory path parent last) {found : Place}
    (htarget : tree.fileTarget directory path = .ok found)
    : Path.IsName last ∧ found = parent ++ [String.ofList last] := by
  cases (fileTarget_eq_ok_iff.mp htarget).1 with
  | child hstart hsplit _ hlast hother hchild =>
    obtain ⟨before, hpieces, hwalk⟩ := h.walk _ hstart
    obtain ⟨rfl, heq⟩ := List.append_inj' (hpieces.symm.trans hsplit) rfl
    obtain rfl := List.singleton_inj.mp heq
    rw [hwalk, Except.ok.injEq] at hother
    rw [← hother] at hchild
    exact ⟨hlast, (child_eq_ok_iff.mp hchild).2.2⟩

/-- A last piece leads to a place for a file, or to a directory. -/
theorem find?_of_step (h : tree.EndsAt directory path parent last) (hformed : tree.WellFormed)
    {origin found : Place} (hstart : start directory path = .ok origin)
    (hstep : tree.step parent last = .ok found)
    : tree.fileTarget directory path = .ok found ∨ tree.find? found = some .directory := by
  obtain ⟨before, hpieces, hwalk⟩ := h.walk origin hstart
  by_cases hcurrent : last = ['.']
  . rw [step_blank h.isDirectory (.inr hcurrent), Except.ok.injEq] at hstep
    exact .inr (hstep ▸ h.isDirectory)
  . by_cases hparent : last = ['.', '.']
    . rw [hparent, step_parent h.isDirectory, Except.ok.injEq] at hstep
      exact .inr (hstep ▸ hformed _ _ h.isDirectory)
    . have hslash := Path.slash_notMem_of_mem_pieces (hpieces ▸ by simp : last ∈ path.pieces)
      have hname : Path.IsName last := ⟨h.ne_nil, hslash, hcurrent, hparent⟩
      rw [step_name hname] at hstep
      by_cases hdirectory : tree.find? found = some .directory
      . exact .inr hdirectory
      . left
        rw [fileTarget_eq_ok_iff]
        exact ⟨.child hstart hpieces (by simp) hname hwalk hstep, hdirectory⟩

/-- A path leads to the same entry as long as no directory and not its own file changes. -/
theorem locate_eq (h : tree.EndsAt directory path parent last) (hformed : tree.WellFormed)
    (hsame : tree.SameDirectories other)
    (hfile : ∀ found, tree.fileTarget directory path = .ok found →
      other.find? found = tree.find? found)
    : other.locate directory path = tree.locate directory path := by
  have hdirectories := fun place => (hsame place).mp
  unfold locate
  cases hstart : start directory path with
  | error e => rfl
  | ok origin =>
    obtain ⟨before, hpieces, hwalk⟩ := h.walk origin hstart
    simp only [hpieces, walk_concat, hwalk, walk_of_directories hdirectories hwalk, Except.bind]
    rw [step_congr (hdirectories _ h.isDirectory) h.isDirectory last]
    cases hfound : tree.step parent last with
    | error e => rfl
    | ok found =>
      have heq : other.find? found = tree.find? found := by
        rcases h.find?_of_step hformed hstart hfound with htarget | hdirectory
        . exact hfile found htarget
        . rw [hdirectory, hdirectories _ hdirectory]
      simp only [heq]

theorem target_eq (h : tree.EndsAt directory path parent last)
    (hsame : tree.SameDirectories other)
    : other.target directory path = tree.target directory path := by
  have hdirectories := fun place => (hsame place).mp
  have hparent := hdirectories _ h.isDirectory
  unfold target
  cases hstart : start directory path with
  | error e => rfl
  | ok origin =>
    obtain ⟨before, hpieces, hwalk⟩ := h.walk origin hstart
    have hreverse : path.pieces.reverse = last :: before.reverse := by simp [hpieces]
    have hdrop : (last :: before.reverse).dropWhile List.isEmpty = last :: before.reverse := by
      rw [List.dropWhile_cons_of_neg (by simpa using h.ne_nil)]
    have hchild : other.child parent (String.ofList last)
        = tree.child parent (String.ofList last) := by
      unfold child
      rw [h.isDirectory, hparent]
    simp only [hreverse, hdrop, List.reverse_reverse, hwalk, walk_of_directories hdirectories hwalk,
      step_congr hparent h.isDirectory, hchild]

/-- Files that are written do not change where a path leads, and whether a file may stand there. -/
theorem fileTarget_eq (h : tree.EndsAt directory path parent last)
    (hsame : tree.SameDirectories other)
    : other.fileTarget directory path = tree.fileTarget directory path := by
  unfold fileTarget
  rw [h.target_eq hsame]
  cases tree.target directory path with
  | error e => rfl
  | ok target =>
    cases target with
    | directory => rfl
    | place place endsInSlash =>
      cases endsInSlash with
      | true => rfl
      | false =>
        by_cases hdirectory : tree.find? place = some .directory
        . simp only [hdirectory, (hsame place).mp hdirectory]
        . have hother := fun h => hdirectory ((hsame place).mpr h)
          dsimp only
          split
          . next h => exact absurd h hother
          . rfl

theorem of_sameDirectories (h : tree.EndsAt directory path parent last)
    (hsame : tree.SameDirectories other) : other.EndsAt directory path parent last := by
  refine ⟨h.ne_nil, (hsame parent).mp h.isDirectory, fun origin hstart => ?_⟩
  obtain ⟨before, hpieces, hwalk⟩ := h.walk origin hstart
  exact ⟨before, hpieces, walk_of_directories (fun place => (hsame place).mp) hwalk⟩

end EndsAt

theorem walk_of_walk_blank {origin place : Place} {before : List (List Char)}
    (h : tree.walk origin (before ++ [[]]) = .ok place) : tree.walk origin before = .ok place := by
  rw [walk_concat] at h
  cases hwalk : tree.walk origin before with
  | error e => simp [hwalk, Except.bind] at h
  | ok found =>
    simp only [hwalk, Except.bind] at h
    rwa [step_blank (find?_of_step h) (.inl rfl)] at h

theorem start_join {outDir : Path} {s : List Char} {origin : Place} (hempty : outDir.written ≠ "")
    (hslash : '/' ∉ s) (hstart : start directory (outDir.join (.ofChars s)) = .ok origin)
    : start directory outDir = .ok origin := by
  have hhead : s.head? ≠ some '/' := fun hhead => hslash (List.mem_of_head? hhead)
  rw [start_eq_ok_iff, Path.isAbsolute_join hempty hhead] at hstart
  obtain ⟨_, hnul, hshort, horigin⟩ := hstart
  rw [start_eq_ok_iff]
  refine ⟨hempty, Path.holdsNul_of_join hhead hnul, ?_, horigin⟩
  exact Nat.lt_of_le_of_lt (Path.utf8ByteSize_le_join outDir hhead) hshort

section

variable {outDir : Path} {place : Place}
  (hat : tree.locate directory outDir = .ok (place, .directory))

include hat

theorem walk_front {origin : Place} (hstart : start directory outDir = .ok origin)
    : tree.walk origin (outDir.front.splitOn '/').dropLast = .ok place := by
  obtain ⟨other, hother, hwalk, _⟩ := locate_eq_ok_iff.mp hat
  rw [hstart, Except.ok.injEq] at hother
  subst hother
  have hfront := outDir.isFront_front
  rw [Path.pieces_eq] at hwalk
  unfold Path.front at hfront ⊢
  split
  . next h =>
    rw [if_pos h, List.append_nil] at hfront
    rw [List.append_nil]
    apply walk_of_walk_blank
    generalize outDir.chars = chars at hfront hwalk
    cases hfront with
    | nil => exact hwalk
    | slash before =>
      rw [List.splitOn_append_cons_self, List.splitOn_nil] at hwalk ⊢
      rwa [List.dropLast_concat]
  . rw [List.splitOn_append_cons_self, List.splitOn_nil, List.dropLast_concat]
    exact hwalk

theorem endsAt_join {s : List Char} (hne : s ≠ []) (hslash : '/' ∉ s)
    : tree.EndsAt directory (outDir.join (.ofChars s)) place s := by
  obtain ⟨_, hplace, _, hdirectory⟩ := locate_eq_ok_iff.mp hat
  refine ⟨hne, hdirectory, fun origin hstart => ⟨(outDir.front.splitOn '/').dropLast, ?_, ?_⟩⟩
  . have hhead : s.head? ≠ some '/' := fun hhead => hslash (List.mem_of_head? hhead)
    rw [Path.join_eq outDir hhead, Path.pieces_front outDir.isFront_front hslash]
  . exact walk_front hat (start_join (start_eq_ok_iff.mp hplace).1 hslash hstart)

theorem exists_endsAt_beside {front name tail : List Char} (hfront : Path.IsFront front)
    (hname : Path.IsName name) (htail : Path.IsTail tail)
    (hpath : outDir = .ofChars (front ++ name ++ tail))
    : ∃ parent, place = parent ++ [String.ofList name]
        ∧ ∀ other, Path.IsName other →
          tree.EndsAt directory (.ofChars (front ++ other)) parent other := by
  obtain ⟨origin, hstart, hwalk, _⟩ := locate_eq_ok_iff.mp hat
  obtain ⟨blanks, hsplit, hblanks⟩ := htail.splitOn hname.slash_notMem
  rw [hpath, Path.pieces_ofChars, List.append_assoc, Path.splitOn_front hfront, hsplit,
    walk_append] at hwalk
  cases hbefore : tree.walk origin (front.splitOn '/').dropLast with
  | error e => simp [hbefore, Except.bind] at hwalk
  | ok parent =>
    simp only [hbefore, Except.bind, walk, step_name hname] at hwalk
    cases hchild : tree.child parent (String.ofList name) with
    | error e => simp [hchild] at hwalk
    | ok found =>
      simp only [hchild] at hwalk
      rw [child_eq_ok_iff] at hchild
      refine ⟨parent, (eq_of_walk_blanks hblanks hwalk).trans hchild.2.2, fun other hnamed => ?_⟩
      refine ⟨hnamed.ne_nil, hchild.1, fun start hother => ?_⟩
      refine ⟨_, Path.pieces_front hfront hnamed.slash_notMem, ?_⟩
      rw [start_eq_ok_iff] at hstart hother
      have habsolute := Path.isAbsolute_name hfront hnamed []
      rw [List.append_nil] at habsolute
      rw [← hbefore, hother.2.2.2, hstart.2.2.2, hpath, habsolute,
        Path.isAbsolute_name hfront hname]

end

/-- A path that starts nowhere leads nowhere, whatever stands in the tree. -/
theorem endsAt_of_start {path : Path} {last : List Char} (hne : last ≠ [])
    (h : ∀ origin, start directory path ≠ .ok origin) : tree.EndsAt directory path [] last :=
  ⟨hne, rfl, fun origin hstart => absurd hstart (h origin)⟩

/-- A path names a directory. The root may be named by a path that is too long to start with. -/
inductive Reaches (tree : Tree) (directory : Place) (path : Path) : Place → Prop where
  | located {place : Place} (h : tree.locate directory path = .ok (place, .directory))
    : Reaches tree directory path place
  | root (hempty : path.written ≠ "") (hsteps : path.steps = [.root])
    (hstart : ∀ origin, start directory path ≠ .ok origin)
    : Reaches tree directory path []

theorem exists_reaches_of_isBare {path : Path} (hempty : path.written ≠ "") (h : path.IsBare)
    : ∃ place, tree.Reaches directory path place := by
  obtain ⟨hsteps, habsolute, hblanks⟩ := Path.root_of_isBare h hempty
  by_cases hstart : ∃ origin, start directory path = .ok origin
  . obtain ⟨origin, hstart⟩ := hstart
    have horigin : origin = [] := by
      rw [(start_eq_ok_iff.mp hstart).2.2.2, habsolute]
      rfl
    rw [horigin] at hstart
    exact ⟨[], .located (locate_eq_ok_iff.mpr ⟨[], hstart, walk_blanks rfl hblanks, rfl⟩)⟩
  . exact ⟨[], .root hempty hsteps fun origin heq => hstart ⟨origin, heq⟩⟩

theorem Reaches.isDirectory {path : Path} {place : Place} (h : tree.Reaches directory path place)
    : tree.find? place = some .directory := by
  cases h with
  | located h =>
    obtain ⟨_, _, _, hdirectory⟩ := locate_eq_ok_iff.mp h
    exact hdirectory
  | root _ _ _ => rfl

end DirectedMarkdown.Tree
