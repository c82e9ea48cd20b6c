import DirectedMarkdown.Configuration.Load
import DirectedMarkdown.Proofs.Command.Run
import DirectedMarkdown.Proofs.File.Place
import Mathlib.Data.List.Induction

/-!
This module contains the search for a configuration file from the working directory upward. What is
found is the nearest entry with the name of the file, of whatever kind it is, so that a directory
with that name hides the files above it.
-/

namespace DirectedMarkdown

/-- A session with a working directory that can be written as a path. -/
structure Session.Placed (session : Session) : Prop where
  wellFormed : session.tree.WellFormed
  names : ∀ name ∈ session.directory, IsEntryName name

theorem Session.Placed.names_of_above {session : Session} (h : session.Placed) {place : Place}
    (habove : place <+: session.directory) : ∀ name ∈ place, IsEntryName name :=
  fun name hname => h.names name (habove.subset hname)

namespace Configuration

open Session Surroundings

/-- The nearest of a directory and those above it, of the ones that count. -/
structure IsNearest (counts : Place → Prop) (directory place : Place) : Prop where
  above : place <+: directory
  meets : counts place
  nearest : ∀ other, other <+: directory → counts other → other <+: place

/-- The path of the configuration file in a directory. -/
def fileIn (place : Place) : Path :=
  pathOf (place ++ [fileName.written])

/-- There is a regular file with the name of the configuration file in a directory. -/
def HasFile (tree : Tree) (place : Place) : Prop :=
  ∃ content, tree.find? (place ++ [fileName.written]) = some (.file content)

/-- The path of the file is no longer than a system allows. -/
def IsShort (place : Place) : Prop :=
  (fileIn place).written.utf8ByteSize < Tree.pathLimit

instance (place : Place) : Decidable (IsShort place) :=
  inferInstanceAs (Decidable (_ < _))

/-- There is anything with the name of the configuration file, and a path can lead there. -/
def Shows (tree : Tree) (place : Place) : Prop :=
  (∃ entry, tree.find? (place ++ [fileName.written]) = some entry) ∧ IsShort place

/-- The configuration in a file with these bytes. -/
def ofContent (path : Path) (content : ByteArray) : Except LoadError Configuration :=
  match String.fromUTF8? content with
  | none => .error (.file .notText)
  | some document => (ofText document).map ({ · with path := some path })

/-- A configuration with adjustments. -/
def adjusted (adjustments : Adjustments) (configuration : Configuration)
    : Except LoadError Configuration :=
  match adjust configuration.snapshot adjustments with
  | .error fault => .error (.invalid fault)
  | .ok snapshot => .ok { configuration with snapshot }

/-- What there is before adjustments where the nearest of the places that count is read. -/
inductive Reads (session : Session) (counts : Place → Prop)
    : Except LoadError Configuration → Prop where
  | file {place : Place} {content : ByteArray}
    : IsNearest counts session.directory place
      → session.tree.find? (place ++ [fileName.written]) = some (.file content)
      → Reads session counts (ofContent (fileIn place) content)
  | directory {place : Place}
    : IsNearest counts session.directory place
      → session.tree.find? (place ++ [fileName.written]) = some .directory
      → Reads session counts (.error (.file .isDirectory))
  | missing
    : (∀ place, place <+: session.directory → ¬counts place)
      → Reads session counts (.ok default)

/-- The nearest of the places that count is found and read, and the defaults do if there is none. -/
structure Discovers (session : Session) (counts : Place → Prop) : Prop where
  path : ∀ path, (session.run discover).1 = some path
    ↔ ∃ place, IsNearest counts session.directory place ∧ path = fileIn place
  reads : ∃ result, Reads session counts result
  load : ∀ result, Reads session counts result → ∀ adjustments,
    session.run (load none adjustments) = (result.bind (adjusted adjustments), session)

namespace IsNearest

variable {counts : Place → Prop} {directory place : Place}

theorem nil_iff : IsNearest counts [] place ↔ place = [] ∧ counts [] := by
  constructor
  . intro h
    obtain rfl := List.prefix_nil.mp h.above
    exact ⟨rfl, h.meets⟩
  . rintro ⟨rfl, hcounts⟩
    exact ⟨List.prefix_rfl, hcounts, fun _ hother _ => hother⟩

theorem concat_iff {name : String}
    : IsNearest counts (directory ++ [name]) place
        ↔ counts (directory ++ [name]) ∧ place = directory ++ [name]
          ∨ ¬counts (directory ++ [name]) ∧ IsNearest counts directory place := by
  by_cases hcounts : counts (directory ++ [name])
  . simp only [hcounts, true_and, not_true_eq_false, false_and, or_false]
    constructor
    . intro h
      exact List.IsPrefix.eq_of_length_le h.above (h.nearest _ List.prefix_rfl hcounts).length_le
    . rintro rfl
      exact ⟨List.prefix_rfl, hcounts, fun _ hother _ => hother⟩
  . simp only [hcounts, false_and, not_false_eq_true, true_and, false_or]
    have hiff : ∀ other, counts other →
        (other <+: directory ++ [name] ↔ other <+: directory) := by
      intro other hother
      rw [List.prefix_concat_iff]
      refine or_iff_right ?_
      rintro rfl
      exact hcounts hother
    constructor
    . intro h
      refine ⟨(hiff place h.meets).mp h.above, h.meets, fun other habove hother => ?_⟩
      exact h.nearest other ((hiff other hother).mpr habove) hother
    . intro h
      refine ⟨(hiff place h.meets).mpr h.above, h.meets, fun other habove hother => ?_⟩
      exact h.nearest other ((hiff other hother).mp habove) hother

end IsNearest

theorem exists_isNearest {counts : Place → Prop} {directory place : Place}
    (habove : place <+: directory) (hcounts : counts place)
    : ∃ nearest, IsNearest counts directory nearest := by
  induction directory using List.reverseRecOn with
  | nil =>
    obtain rfl := List.prefix_nil.mp habove
    exact ⟨[], IsNearest.nil_iff.mpr ⟨rfl, hcounts⟩⟩
  | append_singleton directory name ih =>
    by_cases hself : counts (directory ++ [name])
    . exact ⟨_, IsNearest.concat_iff.mpr (.inl ⟨hself, rfl⟩)⟩
    . rcases List.prefix_concat_iff.mp habove with rfl | habove
      . exact absurd hcounts hself
      . obtain ⟨nearest, hnearest⟩ := ih habove
        exact ⟨nearest, IsNearest.concat_iff.mpr (.inr ⟨hself, hnearest⟩)⟩

section Session

variable {session : Session} {counts : Place → Prop}

theorem isEntryName_fileName : IsEntryName fileName.written := by
  refine ⟨⟨?_, ?_, ?_, ?_⟩, ?_, ?_⟩ <;> decide +kernel

theorem forall_isEntryName {place : Place} (h : ∀ name ∈ place, IsEntryName name)
    : ∀ name ∈ place ++ [fileName.written], IsEntryName name := by
  rw [List.forall_mem_append]
  exact ⟨h, by simpa using isEntryName_fileName⟩

theorem candidates_nil : candidates (pathOf []) = [fileIn []] := by
  unfold candidates
  rw [ancestors_pathOf_nil]
  exact congrArg (· :: []) (join_pathOf (forall_isEntryName (by simp)))

theorem candidates_concat {place : Place} {name : String}
    (hnames : ∀ other ∈ place ++ [name], IsEntryName other)
    : candidates (pathOf (place ++ [name]))
        = fileIn (place ++ [name]) :: candidates (pathOf place) := by
  unfold candidates
  rw [ancestors_pathOf_concat hnames, List.map_cons]
  exact congrArg (· :: _) (join_pathOf (forall_isEntryName hnames))

theorem locate_fileIn_eq_ok_iff (hformed : session.tree.WellFormed) {place found : Place}
    (hnames : ∀ name ∈ place, IsEntryName name) {entry : Entry}
    : session.tree.locate session.directory (fileIn place) = .ok (found, entry)
        ↔ IsShort place ∧ found = place ++ [fileName.written]
          ∧ session.tree.find? (place ++ [fileName.written]) = some entry :=
  Tree.locate_pathOf_eq_ok_iff hformed (forall_isEntryName hnames)

theorem isThere_fileIn_iff (hformed : session.tree.WellFormed) {place : Place}
    (hnames : ∀ name ∈ place, IsEntryName name)
    : session.tree.isThere session.directory (fileIn place) = true ↔ Shows session.tree place := by
  unfold Tree.isThere Shows
  constructor
  . intro h
    split at h
    . next item hlocate =>
      obtain ⟨hshort, _, hentry⟩ := (locate_fileIn_eq_ok_iff hformed hnames).mp hlocate
      exact ⟨⟨_, hentry⟩, hshort⟩
    . contradiction
  . rintro ⟨⟨entry, hentry⟩, hshort⟩
    rw [(locate_fileIn_eq_ok_iff hformed hnames).mpr ⟨hshort, rfl, hentry⟩]

theorem run_firstThere?_cons (path : Path) (rest : List Path)
    : (session.run (firstThere? (path :: rest))).1
        = if session.tree.isThere session.directory path then some path
          else (session.run (firstThere? rest)).1 := by
  rw [firstThere?, run_bind]
  show (session.run (if session.tree.isThere session.directory path then _ else _)).1 = _
  split <;> rfl

/-- The search goes on in the directory above just if nothing is found. -/
theorem run_firstThere?_candidates (hformed : session.tree.WellFormed) {directory : Place}
    (hnames : ∀ name ∈ directory, IsEntryName name) (path : Path)
    : (session.run (firstThere? (candidates (pathOf directory)))).1 = some path
        ↔ ∃ place, IsNearest (Shows session.tree) directory place ∧ path = fileIn place := by
  induction directory using List.reverseRecOn with
  | nil =>
    rw [candidates_nil, run_firstThere?_cons]
    simp only [IsNearest.nil_iff]
    by_cases hshows : Shows session.tree []
    . rw [if_pos ((isThere_fileIn_iff hformed hnames).mpr hshows)]
      simp [hshows, eq_comm]
    . rw [if_neg (mt (isThere_fileIn_iff hformed hnames).mp hshows)]
      simp only [hshows, and_false, false_and, exists_false, iff_false]
      exact Option.some_ne_none path ∘ Eq.symm
  | append_singleton directory name ih =>
    rw [candidates_concat hnames, run_firstThere?_cons]
    simp only [IsNearest.concat_iff]
    by_cases hshows : Shows session.tree (directory ++ [name])
    . rw [if_pos ((isThere_fileIn_iff hformed hnames).mpr hshows)]
      simp [hshows, eq_comm]
    . rw [if_neg (mt (isThere_fileIn_iff hformed hnames).mp hshows)]
      simp only [hshows, false_and, not_false_eq_true, true_and, false_or]
      exact ih fun other hother => hnames other (List.mem_append_left _ hother)

theorem run_workingDirectory
    : session.run workingDirectory = (some (pathOf session.directory), session) :=
  rfl

theorem run_discover
    : session.run discover
        = session.run (firstThere? (candidates (pathOf session.directory))) := by
  unfold discover
  rw [run_bind, run_workingDirectory]

theorem run_discover_eq_some_iff (h : session.Placed) {path : Path}
    : (session.run discover).1 = some path
        ↔ ∃ place, IsNearest (Shows session.tree) session.directory place
          ∧ path = fileIn place := by
  rw [run_discover]
  exact run_firstThere?_candidates h.wellFormed h.names path

theorem run_load (path : Option Path) (adjustments : Adjustments)
    : session.run (load path adjustments)
        = ((session.run (base path)).1.bind (adjusted adjustments), session) := by
  unfold load
  rw [run_bind, Command.looks_base path session]
  cases (session.run (base path)).1 with
  | error e => rfl
  | ok configuration =>
    dsimp only [Except.bind]
    unfold adjusted
    cases adjust configuration.snapshot adjustments <;> rfl

theorem run_base_of_discover {path : Path} (h : (session.run discover).1 = some path)
    : (session.run (base none)).1 = (session.run (ofFile path)).1 := by
  unfold base
  rw [run_bind, h, Command.looks_discover session]

theorem run_base_of_discover_none (h : (session.run discover).1 = none)
    : (session.run (base none)).1 = .ok default := by
  unfold base
  rw [run_bind, h]
  rfl

theorem run_ofFile_of_file (h : session.Placed) {place : Place} {content : ByteArray}
    (habove : place <+: session.directory) (hshort : IsShort place)
    (hfile : session.tree.find? (place ++ [fileName.written]) = some (.file content))
    : (session.run (ofFile (fileIn place))).1 = ofContent (fileIn place) content := by
  have hlocate := (locate_fileIn_eq_ok_iff h.wellFormed (h.names_of_above habove)).mpr
    ⟨hshort, rfl, hfile⟩
  unfold ofFile ofContent
  rw [run_bind, run_readFile, Tree.readFile, hlocate]
  dsimp only
  cases String.fromUTF8? content <;> rfl

theorem run_ofFile_of_directory (h : session.Placed) {place : Place}
    (habove : place <+: session.directory) (hshort : IsShort place)
    (hdirectory : session.tree.find? (place ++ [fileName.written]) = some .directory)
    : (session.run (ofFile (fileIn place))).1 = .error (.file .isDirectory) := by
  have hlocate := (locate_fileIn_eq_ok_iff h.wellFormed (h.names_of_above habove)).mpr
    ⟨hshort, rfl, hdirectory⟩
  unfold ofFile
  rw [run_bind, run_readFile, Tree.readFile, hlocate]
  rfl

/-- What is found is what is nearest among all that shows under the name of the file. -/
theorem discovers_of_agree (h : session.Placed)
    (hagree : ∀ place, IsNearest counts session.directory place
      ↔ IsNearest (Shows session.tree) session.directory place)
    : Discovers session counts := by
  have hpath : ∀ path, (session.run discover).1 = some path
      ↔ ∃ place, IsNearest counts session.directory place ∧ path = fileIn place := by
    intro path
    simp only [hagree]
    exact run_discover_eq_some_iff h
  refine ⟨hpath, ?_, ?_⟩
  . by_cases hany : ∃ place, place <+: session.directory ∧ counts place
    . obtain ⟨place, habove, hcounts⟩ := hany
      obtain ⟨nearest, hnearest⟩ := exists_isNearest habove hcounts
      obtain ⟨⟨entry, hentry⟩, _⟩ := ((hagree nearest).mp hnearest).meets
      cases entry with
      | file content => exact ⟨_, .file hnearest hentry⟩
      | directory => exact ⟨_, .directory hnearest hentry⟩
    . exact ⟨_, .missing fun place habove hcounts => hany ⟨place, habove, hcounts⟩⟩
  . intro result hresult adjustments
    have hbase : (session.run (base none)).1 = result := by
      cases hresult with
      | @file place content hnearest hfile =>
        rw [run_base_of_discover ((hpath _).mpr ⟨place, hnearest, rfl⟩)]
        have hshows := ((hagree place).mp hnearest).meets
        exact run_ofFile_of_file h hnearest.above hshows.2 hfile
      | @directory place hnearest hdirectory =>
        rw [run_base_of_discover ((hpath _).mpr ⟨place, hnearest, rfl⟩)]
        have hshows := ((hagree place).mp hnearest).meets
        exact run_ofFile_of_directory h hnearest.above hshows.2 hdirectory
      | missing hmissing =>
        apply run_base_of_discover_none
        rw [Option.eq_none_iff_forall_ne_some]
        intro path hfound
        obtain ⟨place, hnearest, _⟩ := (hpath path).mp hfound
        exact hmissing place hnearest.above hnearest.meets
    rw [run_load, hbase]

theorem fileIn_injective {place other : Place} (hplace : ∀ name ∈ place, IsEntryName name)
    (hother : ∀ name ∈ other, IsEntryName name) (h : fileIn place = fileIn other)
    : place = other :=
  List.append_cancel_right
    (pathOf_injective (forall_isEntryName hplace) (forall_isEntryName hother) h)

/-- Where the nearest file is short to name and nothing hides it, it is what shows nearest. -/
theorem isNearest_hasFile_iff {tree : Tree} {directory : Place}
    (hshort : ∀ place, IsNearest (HasFile tree) directory place → IsShort place)
    (hfile : ∀ place, IsNearest (Shows tree) directory place → HasFile tree place) (place : Place)
    : IsNearest (HasFile tree) directory place ↔ IsNearest (Shows tree) directory place := by
  have hshows : ∀ place, IsNearest (HasFile tree) directory place → Shows tree place := by
    intro place hnearest
    obtain ⟨content, hcontent⟩ := hnearest.meets
    exact ⟨⟨_, hcontent⟩, hshort place hnearest⟩
  constructor
  . intro hnearest
    obtain ⟨shown, hshown⟩ := exists_isNearest hnearest.above (hshows place hnearest)
    have hbelow := hnearest.nearest shown hshown.above (hfile shown hshown)
    have habove := hshown.nearest place hnearest.above (hshows place hnearest)
    rwa [habove.eq_of_length_le hbelow.length_le]
  . intro hshown
    refine ⟨hshown.above, hfile place hshown, fun other habove hother => ?_⟩
    obtain ⟨nearest, hnearest⟩ := exists_isNearest habove hother
    exact (hnearest.nearest other habove hother).trans
      (hshown.nearest nearest hnearest.above (hshows nearest hnearest))

end Session

/--
The search finds what is nearest among all that shows under the name of the configuration file. This
is the nearest regular file just if a path can lead there, and no directory with that name stands
nearer.
-/
theorem discovers_nearest_iff {session : Session} (h : session.Placed)
    : Discovers session (Shows session.tree)
      ∧ (Discovers session (HasFile session.tree)
        ↔ (∀ place, IsNearest (HasFile session.tree) session.directory place → IsShort place)
          ∧ ∀ place, IsNearest (Shows session.tree) session.directory place →
            HasFile session.tree place) := by
  refine ⟨discovers_of_agree h fun place => Iff.rfl, ?_, ?_⟩
  . intro hdiscovers
    have hfound : ∀ path,
        (∃ place, IsNearest (HasFile session.tree) session.directory place ∧ path = fileIn place)
          ↔ ∃ place, IsNearest (Shows session.tree) session.directory place
            ∧ path = fileIn place :=
      fun path => (hdiscovers.path path).symm.trans (run_discover_eq_some_iff h)
    -- Both searches find one path, and it is the path of one place only.
    have hsame : ∀ {place other : Place}, place <+: session.directory →
        other <+: session.directory → fileIn place = fileIn other → place = other :=
      fun hplace hother => fileIn_injective (h.names_of_above hplace) (h.names_of_above hother)
    constructor
    . intro place hnearest
      obtain ⟨shown, hshown, heq⟩ := (hfound (fileIn place)).mp ⟨place, hnearest, rfl⟩
      rw [hsame hnearest.above hshown.above heq]
      exact hshown.meets.2
    . intro place hshown
      obtain ⟨nearest, hnearest, heq⟩ := (hfound (fileIn place)).mpr ⟨place, hshown, rfl⟩
      rw [hsame hshown.above hnearest.above heq]
      exact hnearest.meets
  . rintro ⟨hshort, hfile⟩
    exact discovers_of_agree h (isNearest_hasFile_iff hshort hfile)

/-- A directory with the name of the configuration file hides the file above it. -/
theorem directory_hides_file
    : let content := "[output]\nextension = 'htm'\n".toUTF8
      let tree : Tree :=
        { entries := [(["mdtf.toml"], .file content), (["a"], .directory),
            (["a", "mdtf.toml"], .directory)] }
      let session := Session.start tree ["a"] ""
      session.Placed
        ∧ Reads session (HasFile tree)
          (.ok { snapshot := Snapshot.empty, extension := "htm", path := some ⟨"/mdtf.toml"⟩ })
        ∧ session.run (load none .none) = (.error (.file .isDirectory), session)
        ∧ ¬Discovers session (HasFile tree) := by
  intro content tree session
  have hplaced : session.Placed := by
    constructor
    . apply Tree.wellFormed_of_entries
      simp only [session, tree, Session.start, List.mem_cons, List.not_mem_nil, or_false,
        forall_eq_or_imp, forall_eq]
      exact ⟨rfl, rfl, rfl⟩
    . simp only [session, Session.start, List.mem_cons, List.not_mem_nil, or_false, forall_eq]
      refine ⟨⟨?_, ?_, ?_, ?_⟩, ?_, ?_⟩ <;> decide +kernel
  have hshown : IsNearest (Shows tree) ["a"] ["a"] :=
    ⟨List.prefix_rfl, ⟨⟨_, rfl⟩, by decide +kernel⟩, fun _ hother _ => hother⟩
  have hhidden : ¬HasFile tree ["a"] := by
    rintro ⟨content, h⟩
    cases h
  have hnearest : IsNearest (HasFile tree) ["a"] [] :=
    IsNearest.concat_iff.mpr (.inr ⟨hhidden, IsNearest.nil_iff.mpr ⟨rfl, content, rfl⟩⟩)
  have hresult : ofContent (fileIn []) content
      = .ok { snapshot := Snapshot.empty, extension := "htm", path := some ⟨"/mdtf.toml"⟩ } := by
    decide +kernel
  obtain ⟨hdiscovers, hiff⟩ := discovers_nearest_iff hplaced
  refine ⟨hplaced, ?_, ?_, ?_⟩
  . rw [← hresult]
    exact .file hnearest rfl
  . exact hdiscovers.load _ (.directory hshown rfl) .none
  . intro h
    exact hhidden ((hiff.mp h).2 ["a"] hshown)

end Configuration

end DirectedMarkdown
