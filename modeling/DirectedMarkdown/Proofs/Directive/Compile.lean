import DirectedMarkdown.Directive.Compile
import DirectedMarkdown.Proofs.Directive.Field
import DirectedMarkdown.Proofs.Except
import DirectedMarkdown.Proofs.Setting

/-!
This module contains the law of compilation: it works field by field. A snapshot compiles just if
the setting of every field is sound, each directive comes from the setting of its own field, and the
first field at fault is reported.
-/

namespace DirectedMarkdown

namespace Field

variable {snapshot other : Snapshot} {field : Field}

/-- The directive of the field in a snapshot. -/
def directive (field : Field) (snapshot : Snapshot) : Except CompileError field.kind.Directive :=
  match snapshot.get? field.name with
  | none => .ok field.kind.initial
  | some value => field.kind.read field.name value

/-- The setting of the field is missing or null, or it has a value that the field takes. -/
def Sound (field : Field) (snapshot : Snapshot) : Prop :=
  ∀ value, snapshot.get? field.name = some value → value ≠ .null → field.kind.Takes value

/-- The error for the first of the fields whose setting is not sound. -/
def FirstFault (fields : List Field) (snapshot : Snapshot) (e : CompileError) : Prop :=
  ∃ before field after value, fields = before ++ field :: after
    ∧ (∀ other ∈ before, other.Sound snapshot)
    ∧ snapshot.get? field.name = some value ∧ field.kind.Fault field.name value e

theorem directive_spec (field : Field) (snapshot : Snapshot)
    : match field.directive snapshot with
      | .ok directive =>
        field.kind.Gives (snapshot.get? field.name) directive ∧ field.Sound snapshot
      | .error e =>
        ∃ value, snapshot.get? field.name = some value
          ∧ field.kind.Fault field.name value e := by
  unfold directive Sound
  cases hget : snapshot.get? field.name with
  | none => exact ⟨.missing (FieldKind.isDefault_initial _), by simp⟩
  | some value =>
    have hread := FieldKind.read_spec field.name field.kind value
    dsimp only
    cases hresult : field.kind.read field.name value with
    | ok directive =>
      rw [hresult] at hread
      refine ⟨hread.1, ?_⟩
      rintro _ ⟨⟩
      exact hread.2
    | error e =>
      rw [hresult] at hread
      exact ⟨value, rfl, hread⟩

theorem gives_of_directive {directive : field.kind.Directive}
    (h : field.directive snapshot = .ok directive)
    : field.kind.Gives (snapshot.get? field.name) directive := by
  have hspec := field.directive_spec snapshot
  rw [h] at hspec
  exact hspec.1

theorem sound_of_directive {directive : field.kind.Directive}
    (h : field.directive snapshot = .ok directive) : field.Sound snapshot := by
  have hspec := field.directive_spec snapshot
  rw [h] at hspec
  exact hspec.2

theorem FirstFault.not_sound {fields : List Field} {e : CompileError}
    (h : FirstFault fields snapshot e) : ∃ field ∈ fields, ¬field.Sound snapshot := by
  obtain ⟨before, field, after, value, rfl, _, hget, hfault⟩ := h
  refine ⟨field, by simp, ?_⟩
  intro hsound
  exact hfault.not_takes (hsound value hget hfault.ne_null)

theorem FirstFault.of_directive {fields : List Field} {e : CompileError}
    (h : field.directive snapshot = .error e) : FirstFault (field :: fields) snapshot e := by
  have hspec := field.directive_spec snapshot
  rw [h] at hspec
  obtain ⟨value, hget, hfault⟩ := hspec
  exact ⟨[], field, fields, value, rfl, by simp, hget, hfault⟩

theorem FirstFault.cons {fields : List Field} {e : CompileError} (hsound : field.Sound snapshot)
    (h : FirstFault fields snapshot e) : FirstFault (field :: fields) snapshot e := by
  obtain ⟨before, first, after, value, rfl, hbefore, hfirst⟩ := h
  refine ⟨field :: before, first, after, value, rfl, ?_, hfirst⟩
  rw [List.forall_mem_cons]
  exact ⟨hsound, hbefore⟩

theorem directive_congr (h : other.get? field.name = snapshot.get? field.name)
    : field.directive other = field.directive snapshot := by
  unfold directive
  rw [h]

end Field

namespace Progress

variable {snapshot other : Snapshot} {progress last : Progress} {fields : List Field}

/-- A step gives its field the directive of the setting, and leaves all other fields as they are. -/
theorem step_spec (snapshot : Snapshot) (progress : Progress) (field : Field)
    : match step snapshot progress field with
      | .ok next =>
        (∃ directive, field.directive snapshot = .ok directive
          ∧ (progress.directives.get field = field.kind.initial →
            next.directives.get field = directive))
        ∧ ∀ other, other ≠ field → next.directives.get other = progress.directives.get other
      | .error e => field.directive snapshot = .error e := by
  unfold step Field.directive
  cases snapshot.get? field.name with
  | none => exact ⟨⟨_, rfl, id⟩, fun _ _ => rfl⟩
  | some value =>
    dsimp only
    cases field.kind.read field.name value with
    | error e => rfl
    | ok directive =>
      refine ⟨⟨directive, rfl, fun _ => ?_⟩, fun other hne => ?_⟩
      . exact progress.directives.get_set_self field directive
      . exact progress.directives.get_set_of_ne hne directive

theorem foldlM_cons_eq_ok {field : Field}
    (h : (field :: fields).foldlM (step snapshot) progress = .ok last)
    : ∃ next, step snapshot progress field = .ok next
        ∧ fields.foldlM (step snapshot) next = .ok last := by
  rw [List.foldlM_cons] at h
  cases hstep : step snapshot progress field with
  | error e =>
    rw [hstep] at h
    nomatch h
  | ok next =>
    rw [hstep] at h
    exact ⟨next, rfl, h⟩

theorem get_of_foldlM {field : Field} (h : fields.foldlM (step snapshot) progress = .ok last)
    (hfield : field ∉ fields) : last.directives.get field = progress.directives.get field := by
  induction fields generalizing progress with
  | nil => rw [Except.ok.inj h]
  | cons first rest ih =>
    obtain ⟨next, hstep, hrest⟩ := foldlM_cons_eq_ok h
    have hspec := step_spec snapshot progress first
    rw [hstep] at hspec
    rw [List.mem_cons, not_or] at hfield
    rw [ih hrest hfield.2, hspec.2 field hfield.1]

/-- Each field gets its directive in its own step, and keeps it in all others. -/
theorem directive_of_foldlM (h : fields.foldlM (step snapshot) progress = .ok last)
    (hnodup : fields.Nodup)
    (hinitial : ∀ field ∈ fields, progress.directives.get field = field.kind.initial)
    : ∀ field ∈ fields, field.directive snapshot = .ok (last.directives.get field) := by
  induction fields generalizing progress with
  | nil => simp
  | cons first rest ih =>
    obtain ⟨next, hstep, hrest⟩ := foldlM_cons_eq_ok h
    have hspec := step_spec snapshot progress first
    rw [hstep] at hspec
    obtain ⟨⟨directive, hdirective, hfirst⟩, hothers⟩ := hspec
    rw [List.nodup_cons] at hnodup
    rw [List.forall_mem_cons] at hinitial ⊢
    constructor
    . rw [get_of_foldlM hrest hnodup.1, hfirst hinitial.1]
      exact hdirective
    . apply ih hrest hnodup.2
      intro field hfield
      have hne : field ≠ first := fun heq => hnodup.1 (heq ▸ hfield)
      rw [hothers field hne]
      exact hinitial.2 field hfield

theorem firstFault_of_foldlM {e : CompileError}
    (h : fields.foldlM (step snapshot) progress = .error e)
    : Field.FirstFault fields snapshot e := by
  induction fields generalizing progress with
  | nil => nomatch h
  | cons first rest ih =>
    rw [List.foldlM_cons] at h
    have hspec := step_spec snapshot progress first
    cases hstep : step snapshot progress first with
    | error found =>
      rw [hstep] at h hspec
      obtain rfl : found = e := Except.error.inj h
      exact .of_directive hspec
    | ok next =>
      rw [hstep] at h hspec
      obtain ⟨⟨directive, hdirective, _⟩, _⟩ := hspec
      exact (ih h).cons (Field.sound_of_directive hdirective)

theorem step_congr (h : ∀ field : Field, other.get? field.name = snapshot.get? field.name)
    : step other = step snapshot := by
  funext progress field
  unfold step
  rw [h]

end Progress

section

variable {snapshot other : Snapshot} {d : DirectiveSet} {e : CompileError}

/-- The count has no influence on the directives. -/
theorem compile_eq_map_run (snapshot : Snapshot)
    : compile snapshot = (Progress.run snapshot).map Progress.directives := by
  unfold compile compilation
  cases Progress.run snapshot <;> rfl

theorem firstFault_of_compile (h : compile snapshot = .error e)
    : Field.FirstFault Field.all snapshot e := by
  rw [compile_eq_map_run] at h
  exact Progress.firstFault_of_foldlM (except_map_eq_error h)

theorem directive_of_compile (h : compile snapshot = .ok d) (field : Field)
    : field.directive snapshot = .ok (d.get field) := by
  rw [compile_eq_map_run] at h
  obtain ⟨progress, hrun, rfl⟩ := except_map_eq_ok h
  apply Progress.directive_of_foldlM hrun (List.Nodup.of_map Field.name Field.nodup_names)
  . exact fun field _ => DirectiveSet.get_initial field
  . exact field.mem_all

theorem compile_congr (h : ∀ field : Field, other.get? field.name = snapshot.get? field.name)
    : compile other = compile snapshot := by
  rw [compile_eq_map_run, compile_eq_map_run, Progress.run, Progress.run, Progress.step_congr h]

theorem exists_compile_eq_ok_iff
    : (∃ d, compile snapshot = .ok d) ↔ ∀ field : Field, field.Sound snapshot := by
  constructor
  . rintro ⟨d, h⟩ field
    exact Field.sound_of_directive (directive_of_compile h field)
  . intro hsound
    cases hcompile : compile snapshot with
    | ok d => exact ⟨d, rfl⟩
    | error e =>
      obtain ⟨field, _, hnot⟩ := (firstFault_of_compile hcompile).not_sound
      exact absurd (hsound field) hnot

theorem get_congr {d' : DirectiveSet} (h : compile snapshot = .ok d)
    (hother : compile other = .ok d') {field : Field}
    (hget : other.get? field.name = snapshot.get? field.name) : d'.get field = d.get field := by
  have hleft := directive_of_compile hother field
  rw [Field.directive_congr hget, directive_of_compile h field] at hleft
  simpa using hleft.symm

end

/--
A compilation works field by field: it succeeds if every setting is sound, a directive is changed by
its own setting alone, and the first fault is reported, in whatever order the settings were made.
-/
theorem compile_fieldwise (snapshot : Snapshot)
    : ((∃ d, compile snapshot = .ok d) ↔ ∀ field : Field, field.Sound snapshot)
      ∧ (∀ d, compile snapshot = .ok d →
        ∀ field : Field, field.kind.Gives (snapshot.get? field.name) (d.get field))
      ∧ (∀ other d d', compile snapshot = .ok d → compile other = .ok d' →
        ∀ field : Field, other.get? field.name = snapshot.get? field.name →
          d'.get field = d.get field)
      ∧ (∀ name value, ∀ other ∈ [snapshot.insert name value, snapshot.erase name],
        (Field.ofName? name = none → compile other = compile snapshot)
          ∧ ∀ d d', compile snapshot = .ok d → compile other = .ok d' →
            ∀ field : Field, field.name ≠ name → d'.get field = d.get field)
      ∧ (∀ e, compile snapshot = .error e → Field.FirstFault Field.all snapshot e)
      ∧ ∀ settings : List (String × Value), settings.Perm snapshot.entries →
        compile (Snapshot.ofList settings) = compile snapshot := by
  refine ⟨exists_compile_eq_ok_iff, ?_, ?_, ?_, fun _ => firstFault_of_compile, ?_⟩
  . intro d h field
    exact Field.gives_of_directive (directive_of_compile h field)
  . intro other d d' h hother field
    exact get_congr h hother
  . intro name value other hother
    -- Making or taking away a setting leaves the values of all others as they are.
    have hget : ∀ field : Field, field.name ≠ name →
        other.get? field.name = snapshot.get? field.name := by
      intro field hne
      rw [List.mem_cons, List.mem_singleton] at hother
      cases hother with
      | inl heq => rw [heq, Snapshot.get?_insert, if_neg hne]
      | inr heq => rw [heq, Snapshot.get?_erase, if_neg hne]
    refine ⟨?_, fun d d' h hother field hne => get_congr h hother (hget field hne)⟩
    intro hunknown
    apply compile_congr
    intro field
    apply hget
    rintro rfl
    unfold Field.ofName? at hunknown
    have hnone := List.find?_eq_none.mp hunknown field field.mem_all
    simp at hnone
  . intro settings hperm
    exact compile_congr fun field => Snapshot.get?_ofList_of_perm hperm field.name

/-- Two settings are at fault; the one that was made last and belongs to the first field counts. -/
theorem compile_fieldwise_faults
    : let settings : List (String × Value) :=
        [("tableClass", .null), ("codeClass", .flag true), ("future", .flag true),
          ("linkAttributes", .text "target=_blank,, bogus ")]
      let snapshot := Snapshot.ofList settings
      let sound := snapshot.insert "codeClass" (.text "") |>.erase "linkAttributes"
      let e := CompileError.malformedPropertyEntry "linkAttributes" "bogus"
      (compile snapshot = .error e ∧ Field.FirstFault Field.all snapshot e)
        ∧ ∃ d, compile sound = .ok d ∧ d.get .tableClass = none
          ∧ Field.codeClass.kind.Gives (sound.get? Field.codeClass.name) (d.get .codeClass) := by
  intro settings snapshot sound e
  have hfault : compile snapshot = .error e := by rfl
  have hsound : compile sound = .ok { DirectiveSet.initial with codeClass := "" } := by rfl
  refine ⟨⟨hfault, (compile_fieldwise snapshot).2.2.2.2.1 e hfault⟩, _, hsound, rfl, ?_⟩
  exact (compile_fieldwise sound).2.1 _ hsound .codeClass

end DirectedMarkdown
