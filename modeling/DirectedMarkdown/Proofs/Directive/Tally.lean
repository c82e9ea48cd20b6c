import DirectedMarkdown.Proofs.Directive.Compile
import DirectedMarkdown.Proofs.Except
import Mathlib.Algebra.Group.Nat.Defs

/-!
This module contains the tally of a compilation. Its count is never above the number of settings: no
two fields have one name, so that each of them counts a setting of its own, and those that are left
are the ones without a field.
-/

namespace DirectedMarkdown

/-- The fields that there are settings for. -/
def Snapshot.fields (snapshot : Snapshot) : List Field :=
  Field.all.filter fun field => (snapshot.get? field.name).isSome

namespace Progress

variable {snapshot : Snapshot}

theorem applied_of_step {progress next : Progress} {field : Field}
    (h : step snapshot progress field = .ok next)
    : next.applied
        = progress.applied + if (snapshot.get? field.name).isSome then 1 else 0 := by
  unfold step at h
  cases hget : snapshot.get? field.name with
  | none =>
    rw [hget] at h
    rw [← Except.ok.inj h]
    rfl
  | some value =>
    rw [hget] at h
    obtain ⟨directive, _, rfl⟩ := except_map_eq_ok h
    rfl

/-- The count grows by one for each field that there is a setting for. -/
theorem applied_of_foldlM {fields : List Field} {progress last : Progress}
    (h : fields.foldlM (step snapshot) progress = .ok last)
    : last.applied
        = progress.applied
          + (fields.filter fun field => (snapshot.get? field.name).isSome).length := by
  induction fields generalizing progress with
  | nil =>
    rw [← Except.ok.inj h]
    rfl
  | cons field fields ih =>
    obtain ⟨next, hstep, hrest⟩ := foldlM_cons_eq_ok h
    rw [ih hrest, applied_of_step hstep, List.filter_cons]
    split
    . rw [List.length_cons]
      omega
    . rfl

theorem applied_of_run {progress : Progress} (h : run snapshot = .ok progress)
    : progress.applied = snapshot.fields.length := by
  rw [applied_of_foldlM h]
  exact Nat.zero_add _

end Progress

namespace Snapshot

variable (snapshot : Snapshot)

theorem mem_names_iff {name : String}
    : name ∈ snapshot.names ↔ ∃ value, snapshot.get? name = some value := by
  rw [← Option.ne_none_iff_exists', get?, ne_eq, lookup_eq_none_iff_notMem, Decidable.not_not,
    names]

/-- The fields that there are settings for are charged to the settings with a field, one to one. -/
theorem perm_fields
    : (snapshot.fields.map Field.name).Perm
        (snapshot.names.filter fun name => (Field.ofName? name).isSome) := by
  unfold fields
  rw [List.perm_ext_iff_of_nodup]
  . intro name
    simp only [List.mem_map, List.mem_filter, Option.isSome_iff_exists, ← mem_names_iff,
      Field.ofName?_eq_some_iff]
    constructor
    . rintro ⟨field, ⟨_, hmem⟩, rfl⟩
      exact ⟨hmem, field, rfl⟩
    . rintro ⟨hmem, field, rfl⟩
      exact ⟨field, ⟨field.mem_all, hmem⟩, rfl⟩
  . exact Field.nodup_names.sublist (List.filter_sublist.map Field.name)
  . exact snapshot.nodup_names.filter _

theorem fields_add_unknownNames
    : snapshot.fields.length + snapshot.unknownNames.length = snapshot.size := by
  have hperm := snapshot.perm_fields.length_eq
  rw [List.length_map] at hperm
  have hsplit := List.length_eq_length_filter_add (l := snapshot.names)
    fun name => (Field.ofName? name).isSome
  have hunknown : snapshot.unknownNames
      = snapshot.names.filter fun name => !(Field.ofName? name).isSome := by
    unfold unknownNames
    congr
    funext name
    rw [Option.not_isSome]
  rw [hperm, hunknown, ← hsplit]
  exact List.length_map _

end Snapshot

/-- No borrow occurs where a count is taken off a larger one, in words that can hold both. -/
theorem sub_of_le {width size count : Nat} (hsize : size < 2 ^ width) (hle : count ≤ size)
    : (BitVec.ofNat width size).usubOverflow (BitVec.ofNat width count) = false
      ∧ (BitVec.ofNat width size - BitVec.ofNat width count).toNat = size - count := by
  have hfits : ∀ n ≤ size, (BitVec.ofNat width n).toNat = n := by
    intro n hn
    rw [BitVec.toNat_ofNat]
    exact Nat.mod_eq_of_lt (Nat.lt_of_le_of_lt hn hsize)
  constructor
  . unfold BitVec.usubOverflow
    rw [hfits size Nat.le.refl, hfits count hle]
    exact decide_eq_false (Nat.not_lt.mpr hle)
  . rw [BitVec.toNat_sub_of_le, hfits size Nat.le.refl, hfits count hle]
    rwa [BitVec.le_def, hfits size Nat.le.refl, hfits count hle]

/--
A compilation that comes through makes use of no more settings than there are: those that are left
are just the ones without a field, and the difference is taken without a borrow in words of any
width that can hold the number of settings.
-/
theorem compile_tally (snapshot : Snapshot)
    : (Progress.run snapshot).map Progress.directives = compile snapshot
      ∧ ∀ progress, Progress.run snapshot = .ok progress →
        progress.applied = snapshot.fields.length
        ∧ progress.applied ≤ snapshot.size
        ∧ snapshot.size - progress.applied = snapshot.unknownNames.length
        ∧ compilation snapshot
          = .ok
            { directives := progress.directives,
              tally :=
                { configured := progress.applied, ignored := snapshot.unknownNames.length } }
        ∧ ∀ width, snapshot.size < 2 ^ width →
          let size := BitVec.ofNat width snapshot.size
          let applied := BitVec.ofNat width progress.applied
          size.usubOverflow applied = false
            ∧ (size - applied).toNat = snapshot.unknownNames.length := by
  refine ⟨(compile_eq_map_run snapshot).symm, ?_⟩
  intro progress hrun
  have happlied := Progress.applied_of_run hrun
  have hcount := snapshot.fields_add_unknownNames
  rw [← happlied] at hcount
  have hle : progress.applied ≤ snapshot.size := by omega
  have hignored : snapshot.size - progress.applied = snapshot.unknownNames.length := by omega
  refine ⟨happlied, hle, hignored, ?_, ?_⟩
  . rw [compilation, hrun, ← hignored]
    rfl
  . intro width hwidth
    have hsub := sub_of_le hwidth hle
    rwa [hignored] at hsub

/-- One of three settings has no field. -/
theorem compile_tally_future
    : let snapshot := Snapshot.ofList
        [("tableClass", .null), ("future", .flag true), ("codeClass", .text "")]
      let progress : Progress :=
        { directives := { DirectiveSet.initial with codeClass := "" }, applied := 2 }
      Progress.run snapshot = .ok progress ∧ snapshot.size < 2 ^ 2
        ∧ snapshot.size - progress.applied = snapshot.unknownNames.length
        ∧ compilation snapshot
          = .ok
            { directives := progress.directives,
              tally := { configured := 2, ignored := snapshot.unknownNames.length } }
        ∧ (BitVec.ofNat 2 snapshot.size - BitVec.ofNat 2 progress.applied).toNat = 1 := by
  intro snapshot progress
  have hrun : Progress.run snapshot = .ok progress := by rfl
  have hsize : snapshot.size < 2 ^ 2 := by decide +kernel
  obtain ⟨_, _, hignored, htally, hwords⟩ := (compile_tally snapshot).2 progress hrun
  exact ⟨hrun, hsize, hignored, htally, (hwords 2 hsize).2⟩

end DirectedMarkdown
