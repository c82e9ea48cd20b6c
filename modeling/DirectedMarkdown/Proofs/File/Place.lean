import DirectedMarkdown.Proofs.File.Ending
import DirectedMarkdown.Session

/-!
This module contains the absolute paths of places: the paths above one are those of the places above
it, and in a tree whose entries stand in directories it leads to its place, if anywhere.
-/

namespace DirectedMarkdown

/-- The name of an entry in a directory, as a system allows it. -/
structure IsEntryName (name : String) : Prop where
  isName : Path.IsName name.toList
  nul_notMem : '\x00' ∉ name.toList
  utf8ByteSize_le : name.utf8ByteSize ≤ Tree.nameLimit

namespace Session

theorem intercalate_slash (first : List Char) (place : Place)
    : ['/'].intercalate (first :: place.map String.toList)
        = first ++ place.flatMap fun name => '/' :: name.toList := by
  induction place generalizing first with
  | nil => simp
  | cons name place ih =>
    rw [List.map_cons, List.intercalate_cons_cons, ih]
    simp

theorem pathOf_of_ne_nil {place : Place} (h : place ≠ [])
    : pathOf place = .ofChars (place.flatMap fun name => '/' :: name.toList) := by
  obtain ⟨name, rest, rfl⟩ := List.exists_cons_of_ne_nil h
  have htext : (Path.Step.root :: (name :: rest).map Path.Step.name).map Path.Step.text
      = [] :: (name :: rest).map String.toList := by
    simp [Path.Step.text]
  unfold pathOf Path.ofSteps
  rw [htext, intercalate_slash, List.nil_append]
  rfl

theorem written_pathOf_ne (place : Place) : (pathOf place).written ≠ "" := by
  by_cases h : place = []
  . subst h
    decide
  . obtain ⟨name, rest, rfl⟩ := List.exists_cons_of_ne_nil h
    rw [pathOf_of_ne_nil h]
    simp [Path.ofChars]

theorem isAbsolute_pathOf (place : Place) : (pathOf place).isAbsolute = true := by
  by_cases h : place = []
  . subst h
    rfl
  . obtain ⟨name, rest, rfl⟩ := List.exists_cons_of_ne_nil h
    rw [pathOf_of_ne_nil h]
    simp [Path.isAbsolute, Path.chars_ofChars]

section

variable {place : Place} (hnames : ∀ name ∈ place, IsEntryName name)

include hnames

theorem holdsNul_pathOf : (pathOf place).holdsNul = false := by
  by_cases h : place = []
  . subst h
    rfl
  . rw [pathOf_of_ne_nil h]
    unfold Path.holdsNul
    rw [Path.chars_ofChars, List.contains_eq_mem, decide_eq_false_iff_not, List.mem_flatMap]
    rintro ⟨name, hname, hmem⟩
    rw [List.mem_cons] at hmem
    cases hmem with
    | inl heq => exact absurd heq (by decide)
    | inr hmem => exact (hnames name hname).nul_notMem hmem

theorem pieces_pathOf (h : place ≠ [])
    : (pathOf place).pieces = [] :: place.map String.toList := by
  have hslash : ∀ piece ∈ [] :: place.map String.toList, '/' ∉ piece := by
    rw [List.forall_mem_cons, List.forall_mem_map]
    exact ⟨List.not_mem_nil, fun name hname => (hnames name hname).isName.slash_notMem⟩
  have hchars := intercalate_slash [] place
  rw [List.nil_append] at hchars
  rw [pathOf_of_ne_nil h, Path.pieces_ofChars, ← hchars]
  exact List.splitOn_intercalate '/' hslash (by simp)

theorem steps_pathOf : (pathOf place).steps = .root :: place.map .name := by
  by_cases h : place = []
  . subst h
    rfl
  . have hpieces : (place.map String.toList).filterMap Path.Step.ofPiece?
        = place.map Path.Step.name := by
      rw [List.filterMap_map, ← List.filterMap_eq_map]
      apply List.filterMap_congr
      intro name hname
      simp [(hnames name hname).isName.ofPiece?]
    rw [Path.steps_of_pieces (pieces_pathOf hnames h), hpieces]
    simp [h]

end

theorem pathOf_injective {place other : Place} (hplace : ∀ name ∈ place, IsEntryName name)
    (hother : ∀ name ∈ other, IsEntryName name) (h : pathOf place = pathOf other)
    : place = other := by
  have hsteps := congrArg Path.steps h
  rw [steps_pathOf hplace, steps_pathOf hother, List.cons.injEq] at hsteps
  exact List.map_injective_iff.mpr (fun _ _ => Path.Step.name.inj) hsteps.2

theorem ancestors_pathOf_nil : (pathOf []).ancestors = [pathOf []] := by
  rfl

/-- Above a place are its directory and the places above that. -/
theorem ancestors_pathOf_concat {place : Place} {name : String}
    (hnames : ∀ other ∈ place ++ [name], IsEntryName other)
    : (pathOf (place ++ [name])).ancestors
        = pathOf (place ++ [name]) :: (pathOf place).ancestors := by
  have hplace : ∀ other ∈ place, IsEntryName other :=
    fun other hother => hnames other (List.mem_append_left _ hother)
  have hsteps : (pathOf (place ++ [name])).steps = (pathOf place).steps ++ [.name name] := by
    rw [steps_pathOf hnames, steps_pathOf hplace, List.map_append, List.cons_append]
    rfl
  have hhead : (pathOf place).steps.head? = some .root := by
    rw [steps_pathOf hplace, List.head?_cons]
  have hlength : (pathOf place).steps.length = place.length + 1 := by
    rw [steps_pathOf hplace, List.length_cons, List.length_map]
  have hself : Path.ofSteps (pathOf place).steps = pathOf place := by
    rw [steps_pathOf hplace]
    rfl
  unfold Path.ancestors
  rw [hsteps]
  generalize (pathOf place).steps = above at *
  have hbelow : (above ++ [Path.Step.name name]).head? = some .root := by
    rw [List.head?_append, hhead, Option.some_or]
  simp only [hbelow, hhead, if_true, List.length_append, List.length_singleton, hlength,
    Nat.add_sub_cancel]
  rw [List.range_succ_eq_map, List.map_cons, List.map_map]
  congr 2
  . rw [Nat.zero_add, Nat.add_sub_cancel, ← hlength, List.take_left, hself]
  . apply List.map_congr_left
    intro i _
    have htake : place.length + 1 + 1 - (i.succ + 1) = place.length + 1 - (i + 1) := by omega
    rw [Function.comp_apply, htake, List.take_append_of_le_length (by omega)]

theorem front_pathOf {place : Place} (hnames : ∀ name ∈ place, IsEntryName name)
    : (pathOf place).front = (place.flatMap fun name => '/' :: name.toList) ++ ['/'] := by
  cases place using List.reverseRecOn with
  | nil => decide +kernel
  | append_singleton place last =>
    -- The path ends in its last name, which has no slash at its end.
    have hname := (hnames last (by simp)).isName
    have hlast : ((place ++ [last]).flatMap fun name => '/' :: name.toList).getLast?
        ≠ some '/' := by
      rw [List.flatMap_append, List.flatMap_singleton, List.append_cons,
        List.getLast?_append_of_ne_nil _ hname.ne_nil]
      exact fun h => hname.slash_notMem (List.mem_of_getLast? h)
    unfold Path.front
    rw [pathOf_of_ne_nil (by simp), Path.chars_ofChars, if_neg]
    rw [not_or]
    exact ⟨by simp, hlast⟩

theorem join_pathOf {place : Place} {name : String}
    (hnames : ∀ other ∈ place ++ [name], IsEntryName other)
    : (pathOf place).join { written := name } = pathOf (place ++ [name]) := by
  have hslash : '/' ∉ name.toList := (hnames name (by simp)).isName.slash_notMem
  have hhead : name.toList.head? ≠ some '/' := fun h => hslash (List.mem_of_head? h)
  have hwritten : ({ written := name } : Path) = .ofChars name.toList := by
    rw [Path.ofChars, String.ofList_toList]
  have hplace : ∀ other ∈ place, IsEntryName other :=
    fun other hother => hnames other (List.mem_append_left _ hother)
  rw [hwritten, Path.join_eq _ hhead, front_pathOf hplace, pathOf_of_ne_nil (by simp),
    List.flatMap_append]
  simp

end Session

namespace Tree

variable {tree : Tree} {directory : Place}

theorem find?_of_append (hformed : tree.WellFormed) {place below : Place} {entry : Entry}
    (h : tree.find? (place ++ below) = some entry) (hbelow : below ≠ [])
    : tree.find? place = some .directory := by
  induction below using List.reverseRecOn generalizing entry with
  | nil => contradiction
  | append_singleton below name ih =>
    have hparent := hformed _ _ h
    rw [← List.append_assoc, List.dropLast_concat] at hparent
    by_cases hnil : below = []
    . subst hnil
      rwa [List.append_nil] at hparent
    . exact ih hparent hnil

theorem walk_names {names : Place} (hnames : ∀ name ∈ names, IsEntryName name) {place found : Place}
    (h : tree.walk place (names.map String.toList) = .ok found) : found = place ++ names := by
  induction names generalizing place with
  | nil => simpa [walk] using h.symm
  | cons name names ih =>
    rw [List.forall_mem_cons] at hnames
    rw [List.map_cons, walk, step_name hnames.1.isName, String.ofList_toList] at h
    cases hchild : tree.child place name with
    | error e => simp [hchild] at h
    | ok next =>
      simp only [hchild] at h
      rw [ih hnames.2 h, (child_eq_ok_iff.mp hchild).2.2]
      simp

theorem walk_names_of_find? (hformed : tree.WellFormed) {names : Place}
    (hnames : ∀ name ∈ names, IsEntryName name) {place : Place} {entry : Entry}
    (h : tree.find? (place ++ names) = some entry)
    : tree.walk place (names.map String.toList) = .ok (place ++ names) := by
  induction names generalizing place with
  | nil => simp [walk]
  | cons name names ih =>
    have hdirectory := find?_of_append hformed h (by simp)
    rw [List.forall_mem_cons] at hnames
    have hchild : tree.child place name = .ok (place ++ [name]) := by
      rw [child_eq_ok_iff]
      exact ⟨hdirectory, hnames.1.utf8ByteSize_le, rfl⟩
    rw [List.append_cons] at h ⊢
    rw [List.map_cons, walk, step_name hnames.1.isName, String.ofList_toList, hchild]
    exact ih hnames.2 h

/-- The path of a place leads there, if it is short enough and there is anything. -/
theorem locate_pathOf_eq_ok_iff (hformed : tree.WellFormed) {place found : Place}
    (hnames : ∀ name ∈ place, IsEntryName name) {entry : Entry}
    : tree.locate directory (Session.pathOf place) = .ok (found, entry)
        ↔ (Session.pathOf place).written.utf8ByteSize < pathLimit
          ∧ found = place ∧ tree.find? place = some entry := by
  have hstart : ∀ origin, start directory (Session.pathOf place) = .ok origin
      ↔ (Session.pathOf place).written.utf8ByteSize < pathLimit ∧ origin = [] := by
    intro origin
    rw [start_eq_ok_iff, Session.isAbsolute_pathOf, Session.holdsNul_pathOf hnames]
    simp [Session.written_pathOf_ne]
  have hwalk : tree.walk [] (Session.pathOf place).pieces
      = tree.walk [] (place.map String.toList) := by
    by_cases h : place = []
    . subst h
      rfl
    . rw [Session.pieces_pathOf hnames h, walk]
      rfl
  rw [locate_eq_ok_iff]
  constructor
  . rintro ⟨origin, horigin, hfound, hentry⟩
    obtain ⟨hshort, rfl⟩ := (hstart origin).mp horigin
    rw [hwalk] at hfound
    obtain rfl := walk_names hnames hfound
    exact ⟨hshort, rfl, hentry⟩
  . rintro ⟨hshort, rfl, hentry⟩
    refine ⟨[], (hstart []).mpr ⟨hshort, rfl⟩, ?_, hentry⟩
    rw [hwalk]
    exact walk_names_of_find? hformed hnames hentry

end Tree

end DirectedMarkdown
