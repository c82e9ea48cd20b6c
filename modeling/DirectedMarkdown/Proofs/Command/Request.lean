import DirectedMarkdown.Command.Request
import DirectedMarkdown.Proofs.Command.Argument

/-!
This module contains what holds of the request in a command line: no option of it is an empty path,
and the options that all commands have are taken by each of them in the same way.
-/

namespace DirectedMarkdown.Command

/-- Whether an item may stand behind others with the options `seen`. -/
def Item.MayFollow (name : Name) (seen : List Flag) : Item → Prop
  | .flag option => option ≠ .help ∧ option ∉ seen
  | .value option written =>
    ¬(option ∈ seen ∧ ¬option.isRepeatable) ∧ ¬(option = .set ∧ readSetting written = none)
      ∧ ¬(option ≠ .set ∧ written.isEmpty)
  | .word written => name = .render ∧ ¬written.isEmpty

section

variable {name : Name} {seen : List Flag} {items : List Item}

theorem checkItems_cons_iff {item : Item} {rest : List Item}
    : checkItems name seen (item :: rest) = .ok false
        ↔ item.MayFollow name seen
          ∧ checkItems name (item.option?.toList ++ seen) rest = .ok false := by
  cases item with
  | flag option =>
    rw [checkItems, Item.MayFollow]
    split
    . next hhelp => simp [hhelp]
    . next hhelp =>
      split
      . next hseen => simp [hseen]
      . next hseen => simp [hhelp, hseen, Item.option?]
  | value option written =>
    rw [checkItems, Item.MayFollow]
    split
    . next hrepeated => simp [hrepeated]
    . next hrepeated =>
      split
      . next hsetting => simp [hsetting]
      . next hsetting =>
        split
        . next hempty => simp [hempty]
        . next hempty =>
          simp only [hrepeated, hsetting, hempty, not_false_eq_true, true_and]
          rfl
  | word written =>
    rw [checkItems, Item.MayFollow]
    split
    . next hname => simp [hname]
    . next hname =>
      split
      . next hempty => simp [hempty]
      . next hempty => simp [Decidable.not_not.mp hname, hempty, Item.option?]

theorem mayFollow_of_checkItems (h : checkItems name seen items = .ok false) {item : Item}
    (hmem : item ∈ items) : ∃ before, item.MayFollow name before := by
  induction items generalizing seen with
  | nil => simp at hmem
  | cons first rest ih =>
    obtain ⟨hfirst, hrest⟩ := checkItems_cons_iff.mp h
    rw [List.mem_cons] at hmem
    cases hmem with
    | inl heq =>
      subst heq
      exact ⟨seen, hfirst⟩
    | inr hmem => exact ih hrest hmem

theorem value_ne_empty_of_checkItems (h : checkItems name seen items = .ok false) {flag : Flag}
    {value : String} (hmem : Item.value flag value ∈ items) (hflag : flag ≠ .set)
    : value ≠ "" := by
  obtain ⟨_, _, _, hempty⟩ := mayFollow_of_checkItems h hmem
  intro hvalue
  exact hempty ⟨hflag, String.isEmpty_iff.mpr hvalue⟩

theorem ne_word_of_checkItems (hname : name ≠ .render) (h : checkItems name seen items = .ok false)
    (written : String) : .word written ∉ items := by
  intro hmem
  obtain ⟨_, hrender, _⟩ := mayFollow_of_checkItems h hmem
  exact hname hrender

/-- Items that a command without words takes are taken by the others as well. -/
theorem checkItems_of_ne_render (hname : name ≠ .render)
    (h : checkItems name seen items = .ok false) (other : Name)
    : checkItems other seen items = .ok false := by
  induction items generalizing seen with
  | nil => rfl
  | cons item rest ih =>
    rw [checkItems_cons_iff] at h ⊢
    obtain ⟨hitem, hrest⟩ := h
    refine ⟨?_, ih hrest⟩
    cases item with
    | flag _ | value _ _ => exact hitem
    | word _ => exact absurd hitem.1 hname

theorem request_eq_task_iff {arguments : List String} {task : Task}
    : name.request arguments = .ok (.task task)
        ↔ ∃ items, Reads name.flags none arguments items
            ∧ checkItems name [] items = .ok false
            ∧ (conflicts.find? fun (a, b) => isGiven items a && isGiven items b) = none
            ∧ taskOf name items = task := by
  unfold Name.request
  constructor
  . intro h
    split at h
    . simp at h
    . next items hread =>
      split at h
      . simp at h
      . simp at h
      . next hcheck =>
        split at h
        . simp at h
        . next hconflicts =>
          exact ⟨items, reads_of_readItems hread, hcheck, hconflicts,
            Request.task.inj (Except.ok.inj h)⟩
  . rintro ⟨items, hreads, hcheck, hconflicts, rfl⟩
    rw [readItems_of_reads hreads]
    dsimp only
    rw [hcheck]
    dsimp only
    rw [hconflicts]

theorem wordsOf_eq_nil (hname : name ≠ .render) (h : checkItems name [] items = .ok false)
    : wordsOf items = [] := by
  unfold wordsOf
  rw [List.filterMap_eq_nil_iff]
  intro item hmem
  cases item with
  | flag _ | value _ _ => rfl
  | word written => exact absurd hmem (ne_word_of_checkItems hname h written)

theorem pathOf_eq_none {flag : Flag} (h : ∀ item ∈ items, item.option? ≠ some flag)
    : pathOf items flag = none := by
  have hvalues : valuesOf items flag = [] := by
    unfold valuesOf
    rw [List.filterMap_eq_nil_iff]
    intro item hmem
    specialize h item hmem
    cases item with
    | flag _ | word _ => rfl
    | value other value => simpa [Item.option?] using h
  unfold pathOf
  rw [hvalues]
  rfl

end

theorem written_ne_of_pathOf {name : Name} {items : List Item}
    (h : checkItems name [] items = .ok false) {flag : Flag} (hflag : flag ≠ .set) {path : Path}
    (hpath : pathOf items flag = some path) : path.written ≠ "" := by
  unfold pathOf valuesOf at hpath
  rw [Option.map_eq_some_iff] at hpath
  obtain ⟨value, hvalue, rfl⟩ := hpath
  obtain ⟨item, hmem, hitem⟩ := List.mem_filterMap.mp (List.mem_of_head? hvalue)
  split at hitem
  . next other written =>
    split at hitem
    . next heq =>
      obtain rfl := Option.some.inj hitem
      subst heq
      exact value_ne_empty_of_checkItems h hmem hflag
    . simp at hitem
  . simp at hitem

theorem outDir_ne_of_request {name : Name} {arguments : List String} {setup : Setup}
    {inputs : List Path} {output : Option Path} {outDir : Path}
    (h : name.request arguments = .ok (.task (.render setup inputs output (some outDir))))
    : outDir.written ≠ "" := by
  obtain ⟨items, _, hcheck, _, htask⟩ := request_eq_task_iff.mp h
  unfold taskOf at htask
  cases name with
  | render =>
    obtain ⟨_, _, _, hpath⟩ := Task.render.inj htask
    exact written_ne_of_pathOf hcheck (by decide : Flag.outDir ≠ .set) hpath
  | directives | check => simp at htask

theorem readGeneral_ne_task {isVerbose other : Bool} {items : List Item} {task : Task}
    : readGeneral isVerbose items ≠ .ok (some (.task task), other) := by
  fun_induction readGeneral isVerbose items <;> simp_all

theorem ofHelp_ne_task {arguments : List String} {task : Task}
    : Request.ofHelp arguments ≠ .ok (.task task) := by
  unfold Request.ofHelp
  split
  . simp
  . split
    . simp
    . split <;> simp

theorem outDir_ne_of_go {isVerbose : Bool} {arguments : List String} {setup : Setup}
    {inputs : List Path} {output : Option Path} {outDir : Path}
    (h : Request.ofArguments.go isVerbose arguments
      = .ok (.task (.render setup inputs output (some outDir))))
    : outDir.written ≠ "" := by
  fun_induction Request.ofArguments.go isVerbose arguments with
  | case1 | case2 | case7 => simp at h
  | case3 _ _ _ proceed _ _ _ ih | case4 _ _ _ proceed _ _ ih =>
    -- Options before the name of a command ask for no task themselves.
    dsimp only [proceed] at h
    split at h
    . simp at h
    . split at h
      . simp at h
      . next hgeneral =>
        obtain rfl := Except.ok.inj h
        exact absurd hgeneral readGeneral_ne_task
      . exact ih _ h
  | case5 => exact outDir_ne_of_request h
  | case6 => exact absurd h ofHelp_ne_task

section

variable {shared : List String} {setup : Setup}
  (h : Request.ofArguments ("check" :: shared) = .ok (.task (.check setup)))

include h

theorem request_directives_of_check
    : Request.ofArguments ("directives" :: shared) = .ok (.task (.directives setup)) := by
  have hrequest : Name.check.request shared = .ok (.task (.check setup)) := h
  obtain ⟨items, hreads, hcheck, hconflicts, htask⟩ := request_eq_task_iff.mp hrequest
  show Name.directives.request shared = _
  rw [request_eq_task_iff]
  refine ⟨items, hreads, ?_, hconflicts, ?_⟩
  . exact checkItems_of_ne_render (by decide) hcheck .directives
  . exact congrArg Task.directives (Task.check.inj htask)

theorem request_render_of_check {input : String} (hform : Argument.ofString input = .word)
    (hinput : input ≠ "")
    : Request.ofArguments ("render" :: input :: shared)
        = .ok (.task (.render setup [⟨input⟩] none none)) := by
  have hrequest : Name.check.request shared = .ok (.task (.check setup)) := h
  obtain ⟨items, hreads, hcheck, hconflicts, htask⟩ := request_eq_task_iff.mp hrequest
  have hwithin := hreads.option_mem nofun
  have hnotGiven : ∀ flag ∉ Name.check.flags, pathOf (.word input :: items) flag = none := by
    intro flag hflag
    show pathOf items flag = none
    apply pathOf_eq_none
    intro item hmem heq
    exact hflag (hwithin item hmem flag heq)
  show Name.render.request (input :: shared) = _
  rw [request_eq_task_iff]
  refine ⟨.word input :: items, .word hform (hreads.append [.output, .outDir]), ?_,
    hconflicts, ?_⟩
  . have hempty : ¬input.isEmpty := by simpa using hinput
    rw [checkItems_cons_iff]
    exact ⟨⟨rfl, hempty⟩, checkItems_of_ne_render (by decide) hcheck .render⟩
  . have hwords : wordsOf (.word input :: items) = [input] :=
      congrArg (input :: ·) (wordsOf_eq_nil (by decide) hcheck)
    have hsetup : setupOf (.word input :: items) = setup := Task.check.inj htask
    unfold taskOf
    dsimp only
    rw [hsetup, hwords, hnotGiven .output (by decide), hnotGiven .outDir (by decide)]
    rfl

end

/-- The directory that files are to be rendered to is not an empty path. -/
theorem outDir_ne_empty {arguments : List String} {setup : Setup} {inputs : List Path}
    {output : Option Path} {outDir : Path}
    (h : Request.ofArguments arguments = .ok (.task (.render setup inputs output (some outDir))))
    : outDir.written ≠ "" :=
  outDir_ne_of_go h

end DirectedMarkdown.Command
