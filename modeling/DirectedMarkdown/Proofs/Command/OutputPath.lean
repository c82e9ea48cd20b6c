import DirectedMarkdown.Command.Render
import DirectedMarkdown.Proofs.File.Ending

/-!
This module contains where the renderings of several files go. The extension of the configuration
takes the place of an extension that the stem of a file has itself, so that two stems may share a
place, and a stem of dots leads out of the directory.
-/

namespace DirectedMarkdown.Command

open DirectedMarkdown.Path

variable {outDir : Path} {extension : String}

/-- What is left of a stem when another extension is put to it. -/
def baseOf (stem : String) : String :=
  String.ofList (splitExtension stem.toList).1

/-- Stems that an extension is put to as they are. -/
def IsKept (stem : String) : Prop :=
  baseOf stem = stem ∧ stem ≠ "."

/-- Stems of files whose renderings go to one place. -/
def Collide (stem other : String) : Prop :=
  baseOf stem = baseOf other ∧ (stem = "." ↔ other = ".")

instance (stem : String) : Decidable (IsKept stem) :=
  inferInstanceAs (Decidable (_ ∧ _))

instance (stem other : String) : Decidable (Collide stem other) :=
  inferInstanceAs (Decidable (_ ∧ _))

/-- Where the rendering of a file goes, by its stem. -/
inductive Destination (outDir : Path) (extension : String) : String → Path → Prop where
  | child {stem : String} (hbase : baseOf stem ≠ ".")
    : Destination outDir extension stem (outDir.join ⟨baseOf stem ++ "." ++ extension⟩)
  /-- Nothing is left of the stem but a dot, and that makes two with the dot of the extension. -/
  | above {stem : String} (hbase : baseOf stem = ".") (hne : stem ≠ ".")
    : Destination outDir extension stem (outDir.join ⟨".."⟩)
  /-- A lone dot is the directory itself, which the extension is put to. -/
  | beside : Destination outDir extension "." ((outDir.join ⟨"."⟩).withExtension extension)

/-- What stands in a stem. -/
structure IsStem (stem : List Char) : Prop where
  ne_nil : stem ≠ []
  slash_notMem : '/' ∉ stem

theorem isStem_of_stem? {input : Path} {stem : String} (h : input.stem? = some stem)
    : IsStem stem.toList := by
  unfold stem? at h
  rw [Option.map_eq_some_iff] at h
  obtain ⟨name, hname, rfl⟩ := h
  obtain ⟨front, tail, _, hname, _, _⟩ := exists_of_fileName? hname
  rw [String.toList_ofList]
  by_cases hdot : '.' ∈ name.toList.tail
  . obtain ⟨stem, old, hstem, hold, hsplit⟩ := exists_extension_of_mem hdot
    have hslash := hname.slash_notMem
    rw [hsplit, splitExtension_append hstem hold] at *
    exact ⟨hstem, fun hmem => hslash (List.mem_append_left _ hmem)⟩
  . rw [splitExtension_of_notMem hdot]
    exact ⟨hname.ne_nil, hname.slash_notMem⟩

theorem IsStem.base {stem : List Char} (h : IsStem stem) : IsStem (splitExtension stem).1 := by
  refine ⟨?_, fun hmem => h.slash_notMem ((isPrefix_splitExtension stem).subset hmem)⟩
  by_cases hdot : '.' ∈ stem.tail
  . obtain ⟨base, old, hbase, hold, rfl⟩ := exists_extension_of_mem hdot
    rwa [splitExtension_append hbase hold]
  . rw [splitExtension_of_notMem hdot]
    exact h.ne_nil

/-- A stem is a name, unless it is a dot or has two of them in front. -/
theorem IsStem.cases {stem : List Char} (h : IsStem stem)
    : stem = ['.'] ∨ (∃ old, '.' ∉ old ∧ '/' ∉ old ∧ stem = '.' :: '.' :: old)
      ∨ IsName stem ∧ (splitExtension stem).1 ≠ ['.'] := by
  by_cases hdot : '.' ∈ stem.tail
  . obtain ⟨base, old, hbase, hold, rfl⟩ := exists_extension_of_mem hdot
    have hslash : '/' ∉ base ∧ '/' ∉ old := by simpa using h.slash_notMem
    rw [splitExtension_append hbase hold]
    by_cases hone : base = ['.']
    . subst hone
      exact .inr (.inl ⟨old, hold, hslash.2, rfl⟩)
    . exact .inr (.inr ⟨IsName.of_extension hbase hslash.1 hslash.2 (.inl hone), hone⟩)
  . rw [splitExtension_of_notMem hdot]
    by_cases hone : stem = ['.']
    . exact .inl hone
    . refine .inr (.inr ⟨⟨h.ne_nil, h.slash_notMem, hone, ?_⟩, hone⟩)
      rintro rfl
      simp at hdot

/-- An extension that may be put to a name. -/
structure IsExtension (extension : String) : Prop where
  ne_empty : extension ≠ ""
  slash_notMem : '/' ∉ extension.toList

theorem isExtension_of_checkExtension (h : Configuration.checkExtension extension = .ok ())
    : IsExtension extension := by
  unfold Configuration.checkExtension at h
  split at h
  . simp at h
  . next hempty =>
    split at h
    . simp at h
    . next hany =>
      refine ⟨fun heq => hempty (String.isEmpty_iff.mpr heq), fun hmem => hany ?_⟩
      rw [List.any_eq_true]
      exact ⟨'/', hmem, by decide⟩

theorem toList_baseOf (stem : String) : (baseOf stem).toList = (splitExtension stem.toList).1 := by
  rw [baseOf, String.toList_ofList]

theorem mk_toList (s : String) : (⟨s⟩ : Path) = ofChars s.toList :=
  (ofChars_chars ⟨s⟩).symm

theorem toList_child (stem extension : String)
    : (baseOf stem ++ "." ++ extension).toList
        = (splitExtension stem.toList).1 ++ '.' :: extension.toList := by
  rw [String.toList_append, String.toList_append, toList_baseOf, List.append_assoc]
  rfl

theorem baseOf_eq_iff {stem : String} {base : List Char}
    : baseOf stem = String.ofList base ↔ (splitExtension stem.toList).1 = base := by
  rw [← String.toList_inj, toList_baseOf, String.toList_ofList]

theorem IsStem.isName_child {stem : String} (h : IsStem stem.toList)
    (hextension : IsExtension extension)
    : IsName (baseOf stem ++ "." ++ extension).toList := by
  rw [toList_child]
  apply IsName.of_extension h.base.ne_nil h.base.slash_notMem hextension.slash_notMem
  right
  simpa using hextension.ne_empty

theorem destination_outputPath {input : Path} {stem : String} (hextension : IsExtension extension)
    (hstem : input.stem? = some stem)
    : Destination outDir extension stem (outputPath input outDir extension) := by
  have hisStem := isStem_of_stem? hstem
  have hhead : ∀ {s : List Char}, '/' ∉ s → s.head? ≠ some '/' :=
    fun hslash hhead => hslash (List.mem_of_head? hhead)
  have hpath : outputPath input outDir extension
      = (outDir.join ⟨stem⟩).withExtension extension := by
    unfold outputPath
    rw [hstem]
    rfl
  rw [hpath]
  rcases hisStem.cases with hone | ⟨old, hold, hslash, htwo⟩ | ⟨hname, hbase⟩
  . obtain rfl : stem = "." := String.toList_inj.mp hone
    exact .beside
  . have habove : (outDir.join ⟨stem⟩).withExtension extension = outDir.join ⟨".."⟩ := by
      rw [mk_toList stem, htwo, join_eq outDir (by simp),
        withExtension_dots outDir.isFront_front hold hslash, ← join_eq outDir (by simp)]
      rfl
    rw [habove]
    refine .above (baseOf_eq_iff.mpr ?_) ?_
    . rw [htwo]
      exact congrArg Prod.fst (splitExtension_append (List.cons_ne_nil '.' []) hold)
    . rintro rfl
      simp at htwo
  . have hchild : (outDir.join ⟨stem⟩).withExtension extension
        = outDir.join ⟨baseOf stem ++ "." ++ extension⟩ := by
      have hset := withExtension_name outDir.isFront_front hname .nil hextension.ne_empty
        (.inr (.inl hbase))
      rw [List.append_nil, List.append_assoc, ← toList_child] at hset
      rw [mk_toList stem, mk_toList, join_eq outDir (hhead hname.slash_notMem), hset,
        join_eq outDir (hhead (hisStem.isName_child hextension).slash_notMem)]
    rw [hchild]
    exact .child fun heq => hbase (baseOf_eq_iff.mp heq)

theorem steps_above (outDir : Path) : (outDir.join ⟨".."⟩).steps = outDir.steps ++ [.parent] := by
  rw [mk_toList]
  show (outDir.join (ofChars ['.', '.'])).steps = _
  rw [join_eq outDir (by simp), steps_parent outDir.isFront_front, steps_front]

/-- With a name at the end of the directory, the extension is put to that. -/
theorem exists_beside {name : String} (hextension : IsExtension extension)
    (h : outDir.fileName? = some name)
    : ∃ front tail, IsFront front ∧ IsTail tail ∧ IsName name.toList
        ∧ IsName (baseOf name ++ "." ++ extension).toList
        ∧ outDir = ofChars (front ++ name.toList ++ tail)
        ∧ (outDir.join ⟨"."⟩).withExtension extension
            = ofChars (front ++ (baseOf name ++ "." ++ extension).toList) := by
  obtain ⟨front, tail, hfront, hname, htail, heq⟩ := exists_of_fileName? h
  obtain ⟨other, hother, hne, hjoin⟩ := exists_tail_current hname htail heq
  have hstem : IsStem name.toList := ⟨hname.ne_nil, hname.slash_notMem⟩
  refine ⟨front, tail, hfront, htail, hname, hstem.isName_child hextension, heq, ?_⟩
  rw [mk_toList]
  show (outDir.join (ofChars ['.'])).withExtension extension = _
  rw [hjoin, withExtension_name hfront hname hother hextension.ne_empty (.inl hne), toList_child,
    List.append_assoc]

theorem beside_of_fileName?_eq_none (h : outDir.fileName? = none) (extension : String)
    : (outDir.join ⟨"."⟩).withExtension extension = outDir.join ⟨"."⟩ := by
  apply withExtension_of_fileName?_eq_none
  have hsteps : (outDir.join ⟨"."⟩).steps = _ := steps_join_current outDir
  unfold fileName? at h ⊢
  rw [hsteps]
  by_cases hempty : outDir.written = ""
  . rw [if_pos hempty]
    rfl
  . rw [if_neg hempty]
    exact h

/-- What is put beside the directory is not in it. -/
theorem steps_beside_ne (hextension : IsExtension extension) (step : Step) (hstep : step ≠ .current)
    : ((outDir.join ⟨"."⟩).withExtension extension).steps ≠ outDir.steps ++ [step] := by
  cases h : outDir.fileName? with
  | none =>
    have hsteps : (outDir.join ⟨"."⟩).steps = _ := steps_join_current outDir
    rw [beside_of_fileName?_eq_none h, hsteps]
    by_cases hempty : outDir.written = ""
    . have hnil : outDir.steps = [] := by
        obtain ⟨written⟩ := outDir
        obtain rfl : written = "" := hempty
        rfl
      simpa [hempty, hnil] using hstep.symm
    . simp [hempty]
  | some name =>
    obtain ⟨front, tail, hfront, htail, hname, hnamed, heq, hbeside⟩ := exists_beside hextension h
    have hsteps := steps_name hfront hname htail
    have hother := steps_name hfront hnamed .nil
    rw [List.append_nil] at hother
    rw [hbeside, hother, heq, hsteps]
    intro heq
    simpa using congrArg List.length heq

theorem steps_child {stem : String} (hextension : IsExtension extension)
    (hstem : IsStem stem.toList)
    : (outDir.join ⟨baseOf stem ++ "." ++ extension⟩).steps
        = outDir.steps ++ [.name (baseOf stem ++ "." ++ extension)] := by
  have := steps_join_name outDir (hstem.isName_child hextension)
  rwa [String.ofList_toList, ← mk_toList] at this

namespace Destination

variable {stem other : String} {path otherPath : Path}

theorem steps_eq_iff (hextension : IsExtension extension) (hstem : IsStem stem.toList)
    (hother : IsStem other.toList) (h : Destination outDir extension stem path)
    (hotherPath : Destination outDir extension other otherPath)
    : path.steps = otherPath.steps ↔ Collide stem other := by
  have hdot : ∀ {stem : String}, baseOf stem ≠ "." → stem ≠ "." := by
    rintro stem hbase rfl
    exact hbase rfl
  unfold Collide
  cases h with
  | child hbase =>
    rw [steps_child hextension hstem]
    cases hotherPath with
    | child hotherBase =>
      rw [steps_child hextension hother]
      simp [hdot hbase, hdot hotherBase]
    | above hotherBase hotherNe =>
      rw [steps_above]
      simp [hotherBase, hbase]
    | beside =>
      refine iff_of_false (steps_beside_ne hextension (.name _) nofun).symm ?_
      simp [hdot hbase]
  | above hbase hne =>
    rw [steps_above]
    cases hotherPath with
    | child hotherBase =>
      rw [steps_child hextension hother]
      simp [hbase, hotherBase.symm]
    | above hotherBase hotherNe =>
      rw [steps_above]
      simp [hbase, hotherBase, hne, hotherNe]
    | beside =>
      refine iff_of_false (steps_beside_ne hextension .parent nofun).symm ?_
      simp [hne]
  | beside =>
    cases hotherPath with
    | child hotherBase =>
      rw [steps_child hextension hother]
      refine iff_of_false (steps_beside_ne hextension (.name _) nofun) ?_
      simp [hdot hotherBase]
    | above hotherBase hotherNe =>
      rw [steps_above]
      refine iff_of_false (steps_beside_ne hextension .parent nofun) ?_
      simp [hotherNe]
    | beside => simp

theorem eq_child_iff (hextension : IsExtension extension) (hstem : IsStem stem.toList)
    (h : Destination outDir extension stem path)
    : path = outDir.join ⟨stem ++ "." ++ extension⟩ ↔ IsKept stem := by
  have hnamed : IsName (stem ++ "." ++ extension).toList := by
    rw [String.toList_append, String.toList_append, List.append_assoc]
    apply IsName.of_extension hstem.ne_nil hstem.slash_notMem hextension.slash_notMem
    right
    simpa using hextension.ne_empty
  have hsteps : (outDir.join ⟨stem ++ "." ++ extension⟩).steps
      = outDir.steps ++ [.name (stem ++ "." ++ extension)] := by
    have := steps_join_name outDir hnamed
    rwa [String.ofList_toList, ← mk_toList] at this
  unfold IsKept
  cases h with
  | child hbase =>
    have hne : stem ≠ "." := by
      rintro rfl
      exact hbase rfl
    constructor
    . intro heq
      have := congrArg steps heq
      rw [steps_child hextension hstem, hsteps] at this
      exact ⟨by simpa using this, hne⟩
    . rintro ⟨heq, _⟩
      rw [heq]
  | above hbase hne =>
    refine iff_of_false ?_ ?_
    . intro heq
      have := congrArg steps heq
      rw [steps_above, hsteps] at this
      simp at this
    . rintro ⟨heq, _⟩
      exact hne (heq ▸ hbase)
  | beside =>
    refine iff_of_false ?_ (by simp)
    intro heq
    exact steps_beside_ne hextension (.name _) nofun ((congrArg steps heq).trans hsteps)

/-- A rendering is written behind the directory that its path ends in a name of. -/
theorem exists_endsAt (hextension : IsExtension extension) (hstem : IsStem stem.toList)
    (h : Destination outDir extension stem path) {tree : Tree} {directory place : Place}
    (hat : tree.Reaches directory outDir place)
    : ∃ parent last, tree.EndsAt directory path parent last
        ∧ (IsName last →
            stem ≠ "." ∧ parent = place ∧ String.ofList last = baseOf stem ++ "." ++ extension
            ∨ stem = "." ∧ ∃ name, place = parent ++ [name]
              ∧ String.ofList last = baseOf name ++ "." ++ extension) := by
  cases hat with
  | root hempty hsteps hstart =>
    have hfile : outDir.fileName? = none := by
      unfold fileName?
      rw [hsteps]
      rfl
    obtain ⟨s, hslash, rfl⟩ : ∃ s, '/' ∉ s ∧ path = outDir.join (ofChars s) := by
      cases h with
      | child hbase => exact ⟨_, (hstem.isName_child hextension).slash_notMem, mk_toList _ ▸ rfl⟩
      | above hbase hne => exact ⟨['.', '.'], by simp, rfl⟩
      | beside => exact ⟨['.'], by simp, beside_of_fileName?_eq_none hfile extension⟩
    refine ⟨[], ['.'], Tree.endsAt_of_start (by simp) fun origin hjoin => ?_, fun hname => ?_⟩
    . exact hstart origin (Tree.start_join hempty hslash hjoin)
    . exact absurd rfl hname.ne_current
  | located hat =>
    cases h with
    | child hbase =>
      have hname := hstem.isName_child hextension
      have hends := Tree.endsAt_join hat hname.ne_nil hname.slash_notMem
      rw [← mk_toList] at hends
      refine ⟨place, _, hends, fun _ => .inl ⟨?_, rfl, String.ofList_toList⟩⟩
      rintro rfl
      exact hbase rfl
    | above hbase hne =>
      refine ⟨place, ['.', '.'], Tree.endsAt_join hat (by simp) (by simp), fun hname => ?_⟩
      exact absurd rfl hname.ne_parent
    | beside =>
      cases hfile : outDir.fileName? with
      | none =>
        rw [beside_of_fileName?_eq_none hfile]
        refine ⟨place, ['.'], Tree.endsAt_join hat (by simp) (by simp), fun hname => ?_⟩
        exact absurd rfl hname.ne_current
      | some name =>
        obtain ⟨front, tail, hfront, htail, hname, hnamed, heq, hbeside⟩ :=
          exists_beside hextension hfile
        obtain ⟨parent, hplace, hends⟩ := Tree.exists_endsAt_beside hat hfront hname htail heq
        rw [hbeside]
        refine ⟨parent, _, hends _ hnamed, fun _ => .inr ⟨rfl, name, ?_, String.ofList_toList⟩⟩
        rw [hplace, String.ofList_toList]

/-- A rendering is written to the directory, unless its stem is a lone dot. -/
theorem place_eq (hextension : IsExtension extension) (hstem : IsStem stem.toList)
    (h : Destination outDir extension stem path) {tree : Tree} {directory place found : Place}
    (hat : tree.Reaches directory outDir place)
    (htarget : tree.fileTarget directory path = .ok found)
    : stem ≠ "." ∧ found = place ++ [baseOf stem ++ "." ++ extension]
        ∨ stem = "." ∧ ¬place <+: found := by
  obtain ⟨parent, last, hends, hplace⟩ := h.exists_endsAt hextension hstem hat
  obtain ⟨hname, hfound⟩ := hends.of_fileTarget htarget
  rcases hplace hname with ⟨hne, rfl, hlast⟩ | ⟨hdot, name, rfl, _⟩
  . rw [hlast] at hfound
    exact .inl ⟨hne, hfound⟩
  . refine .inr ⟨hdot, fun hprefix => ?_⟩
    -- What is beside the directory is under it only if it is the directory, which is no file.
    have heq : parent ++ [name] = found := by
      apply hprefix.eq_of_length
      simp [hfound]
    exact (Tree.fileTarget_eq_ok_iff.mp htarget).2 (heq ▸ hat.isDirectory)

/-- What is written has a name with the extension, in the directory or beside it. -/
theorem exists_name (hextension : IsExtension extension) (hstem : IsStem stem.toList)
    (h : Destination outDir extension stem path) {tree : Tree} {directory place found : Place}
    (hat : tree.Reaches directory outDir place)
    (htarget : tree.fileTarget directory path = .ok found)
    : ∃ parent base, found = parent ++ [base ++ "." ++ extension] := by
  obtain ⟨parent, last, hends, hplace⟩ := h.exists_endsAt hextension hstem hat
  obtain ⟨hname, rfl⟩ := hends.of_fileTarget htarget
  rcases hplace hname with ⟨_, _, hlast⟩ | ⟨_, _, _, hlast⟩
  . exact ⟨parent, _, congrArg (parent ++ [·]) hlast⟩
  . exact ⟨parent, _, congrArg (parent ++ [·]) hlast⟩

theorem place_ne (hextension : IsExtension extension) (hstem : IsStem stem.toList)
    (hother : IsStem other.toList) (h : Destination outDir extension stem path)
    (hotherPath : Destination outDir extension other otherPath) (hapart : ¬Collide stem other)
    {tree : Tree} {directory place found otherFound : Place}
    (hat : tree.Reaches directory outDir place)
    (htarget : tree.fileTarget directory path = .ok found)
    (hotherTarget : tree.fileTarget directory otherPath = .ok otherFound)
    : found ≠ otherFound := by
  rintro rfl
  apply hapart
  rcases h.place_eq hextension hstem hat htarget with ⟨hne, hfound⟩ | ⟨hdot, hprefix⟩
  . rcases hotherPath.place_eq hextension hother hat hotherTarget with ⟨hotherNe, hsame⟩ | ⟨_, hnot⟩
    . have hbase : baseOf stem = baseOf other := by
        have := hfound.symm.trans hsame
        simpa using this
      exact ⟨hbase, by simp [hne, hotherNe]⟩
    . exact absurd (hfound ▸ List.prefix_append place _) hnot
  . rcases hotherPath.place_eq hextension hother hat hotherTarget with ⟨_, hsame⟩ | ⟨hotherDot, _⟩
    . exact absurd (hsame ▸ List.prefix_append place _) hprefix
    . rw [hdot, hotherDot]
      exact ⟨rfl, Iff.rfl⟩

end Destination

/-- The paths of two files whose renderings would go to one place. -/
def SameOutput (outDir : Path) (extension : String) (input other : Path) : Prop :=
  (outputPath input outDir extension).steps = (outputPath other outDir extension).steps

theorem outputTargets_go_eq_ok_iff {inputs targets : List Path} {earlier : List (Path × Path)}
    : outputTargets.go outDir extension earlier inputs = .ok targets
        ↔ targets = inputs.map (outputPath · outDir extension)
          ∧ (∀ previous ∈ earlier, ∀ input ∈ inputs,
              previous.2.steps ≠ (outputPath input outDir extension).steps)
          ∧ inputs.Pairwise fun input other => ¬SameOutput outDir extension input other := by
  -- The earlier inputs grow by one with each input, so that the statement is about any of them.
  induction inputs generalizing targets earlier with
  | nil =>
    rw [outputTargets.go]
    simp [eq_comm]
  | cons input rest ih =>
    rw [outputTargets.go]
    dsimp only
    split
    . next previous other hfind =>
      have hsame := List.find?_some hfind
      refine iff_of_false nofun ?_
      rintro ⟨_, hearlier, _⟩
      exact hearlier _ (List.mem_of_find?_eq_some hfind) input List.mem_cons_self
        (by simpa using hsame)
    . next hfind =>
      have hmap : ∀ result : Except Failure (List Path),
          result.map (outputPath input outDir extension :: ·) = .ok targets
            ↔ ∃ others, result = .ok others
              ∧ targets = outputPath input outDir extension :: others := by
        intro result
        cases result <;> simp [Except.map, eq_comm]
      rw [hmap]
      simp only [ih, List.find?_eq_none, decide_eq_true_eq, List.mem_cons, forall_eq_or_imp,
        List.pairwise_cons, List.map_cons] at hfind ⊢
      constructor
      . rintro ⟨_, ⟨rfl, ⟨hnew, hearlier⟩, hrest⟩, rfl⟩
        exact ⟨rfl, fun previous hmem => ⟨hfind previous hmem, hearlier previous hmem⟩, hnew, hrest⟩
      . rintro ⟨rfl, hearlier, hnew, hrest⟩
        exact ⟨_, ⟨rfl, ⟨hnew, fun previous hmem => (hearlier previous hmem).2⟩, hrest⟩, rfl⟩

/-- The targets are where the files go, one after the other, if no two files go to one place. -/
theorem outputTargets_eq_ok_iff {inputs targets : List Path}
    : outputTargets outDir extension inputs = .ok targets
        ↔ targets = inputs.map (outputPath · outDir extension)
          ∧ inputs.Pairwise fun input other => ¬SameOutput outDir extension input other := by
  unfold outputTargets
  rw [outputTargets_go_eq_ok_iff]
  simp

theorem exists_sameTarget_of_go {inputs : List Path} {earlier : List (Path × Path)}
    {failure : Failure}
    (h : outputTargets.go outDir extension earlier inputs = .error failure)
    : ∃ first second target, failure = .sameTarget first second target := by
  induction inputs generalizing earlier with
  | nil => simp [outputTargets.go] at h
  | cons input rest ih =>
    rw [outputTargets.go] at h
    dsimp only at h
    split at h
    . exact ⟨_, _, _, (Except.error.inj h).symm⟩
    . cases hrest : outputTargets.go outDir extension
          ((input, outputPath input outDir extension) :: earlier) rest with
      | error e =>
        rw [hrest] at h
        exact ih (hrest.trans h)
      | ok targets => simp [hrest, Except.map] at h

theorem exists_sameTarget {inputs : List Path} {failure : Failure}
    (h : outputTargets outDir extension inputs = .error failure)
    : ∃ first second target, failure = .sameTarget first second target :=
  exists_sameTarget_of_go h

end DirectedMarkdown.Command
