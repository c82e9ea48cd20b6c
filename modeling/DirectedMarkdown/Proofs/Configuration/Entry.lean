import DirectedMarkdown.Configuration.Adjustment
import DirectedMarkdown.Configuration.Document
import DirectedMarkdown.Proofs.Setting
import DirectedMarkdown.Proofs.Toml.TableName

/-!
This module contains how settings get into a snapshot, wherever they come from: the entries of a
list are read one after the other and put in. Of the entries with one name, the last one counts.
-/

namespace DirectedMarkdown.Configuration

variable {α : Type}

/-- Puts settings into a snapshot one after the other, as `read` reads them. -/
def enterAll (read : String → α → Except Fault Value) (snapshot : Snapshot)
    : List (String × α) → Except Fault Snapshot
  | [] => .ok snapshot
  | (name, written) :: rest =>
    match read name written with
    | .error fault => .error fault
    | .ok value => enterAll read (snapshot.insert name value) rest

theorem readSettings_eq (snapshot : Snapshot) (table : Toml.Table)
    : readSettings snapshot table = enterAll readSetting snapshot table := by
  induction table generalizing snapshot with
  | nil => rfl
  | cons entry rest ih =>
    rw [readSettings, enterAll]
    cases readSetting entry.1 entry.2 with
    | error fault => rfl
    | ok value => exact ih _

theorem override_eq (snapshot : Snapshot) (overrides : List (String × String))
    : override snapshot overrides = enterAll overrideValue snapshot overrides := by
  induction overrides generalizing snapshot with
  | nil => rfl
  | cons entry rest ih =>
    rw [override, enterAll]
    cases overrideValue entry.1 entry.2 with
    | error fault => rfl
    | ok value => exact ih _

theorem foldl_flags_eq (snapshot : Snapshot) (flags : List (String × Bool))
    : .ok (flags.foldl (fun acc (name, value) => acc.insert name (.flag value)) snapshot)
        = enterAll (fun _ value => .ok (.flag value)) snapshot flags := by
  induction flags generalizing snapshot with
  | nil => rfl
  | cons flag rest ih => exact ih _

/-- The last entry with a name. -/
def IsLast (entries : List (String × α)) (name : String) (written : α) : Prop :=
  ∃ before after, entries = before ++ (name, written) :: after ∧ name ∉ after.map Prod.fst

theorem exists_isLast {entries : List (String × α)} {name : String}
    (h : name ∈ entries.map Prod.fst) : ∃ written, IsLast entries name written := by
  induction entries with
  | nil => simp at h
  | cons entry rest ih =>
    by_cases hrest : name ∈ rest.map Prod.fst
    . obtain ⟨written, before, after, rfl, hafter⟩ := ih hrest
      exact ⟨written, entry :: before, after, rfl, hafter⟩
    . rw [List.map_cons, List.mem_cons] at h
      obtain rfl := h.resolve_right hrest
      exact ⟨entry.2, [], rest, rfl, hrest⟩

theorem IsLast.mem_names {entries : List (String × α)} {name : String} {written : α}
    (h : IsLast entries name written) : name ∈ entries.map Prod.fst := by
  obtain ⟨before, after, rfl, _⟩ := h
  simp

theorem IsLast.unique {entries : List (String × α)} {name : String} {written other : α}
    (h : IsLast entries name written) (hother : IsLast entries name other) : written = other := by
  rw [← Option.some.injEq, ← lookup_reverse_eq_some_iff.mpr h]
  exact lookup_reverse_eq_some_iff.mpr hother

theorem isLast_of_distinct {entries : List (String × α)} (hdistinct : Toml.Distinct entries)
    {name : String} {written : α} (h : (name, written) ∈ entries)
    : IsLast entries name written := by
  obtain ⟨before, after, rfl⟩ := List.append_of_mem h
  refine ⟨before, after, rfl, ?_⟩
  unfold Toml.Distinct at hdistinct
  rw [List.map_append, List.map_cons, List.nodup_append, List.nodup_cons] at hdistinct
  exact hdistinct.2.1.1

section Enter

variable {read : String → α → Except Fault Value} {snapshot next : Snapshot}
  {entries : List (String × α)} {name : String}

theorem enterAll_append (xs ys : List (String × α))
    : enterAll read snapshot (xs ++ ys)
        = (enterAll read snapshot xs).bind fun between => enterAll read between ys := by
  induction xs generalizing snapshot with
  | nil => rfl
  | cons x xs ih =>
    rw [List.cons_append, enterAll, enterAll]
    cases read x.1 x.2 with
    | error fault => rfl
    | ok value => exact ih

theorem exists_enterAll_eq_ok_iff
    : (∃ next, enterAll read snapshot entries = .ok next)
        ↔ ∀ entry ∈ entries, ∃ value, read entry.1 entry.2 = .ok value := by
  induction entries generalizing snapshot with
  | nil => simp [enterAll]
  | cons entry rest ih =>
    rw [enterAll, List.forall_mem_cons]
    cases hread : read entry.1 entry.2 with
    | error fault => simp
    | ok value => simpa using ih

theorem get?_enterAll_of_notMem (h : enterAll read snapshot entries = .ok next)
    (hname : name ∉ entries.map Prod.fst) : next.get? name = snapshot.get? name := by
  induction entries generalizing snapshot with
  | nil =>
    obtain rfl := Except.ok.inj h
    rfl
  | cons entry rest ih =>
    rw [List.map_cons, List.mem_cons, not_or] at hname
    rw [enterAll] at h
    split at h
    . simp at h
    . rw [ih h hname.2, Snapshot.get?_insert, if_neg hname.1]

theorem get?_enterAll_of_isLast (h : enterAll read snapshot entries = .ok next) {written : α}
    (hlast : IsLast entries name written)
    : ∃ value, read name written = .ok value ∧ next.get? name = some value := by
  obtain ⟨before, after, rfl, hafter⟩ := hlast
  rw [enterAll_append] at h
  cases hbefore : enterAll read snapshot before with
  | error fault => simp [hbefore, Except.bind] at h
  | ok between =>
    rw [hbefore] at h
    change enterAll read between ((name, written) :: after) = .ok next at h
    rw [enterAll] at h
    split at h
    . simp at h
    . next value hread =>
      refine ⟨value, hread, ?_⟩
      rw [get?_enterAll_of_notMem h hafter, Snapshot.get?_insert, if_pos rfl]

end Enter

end DirectedMarkdown.Configuration
