import DirectedMarkdown.Directive.Field
import DirectedMarkdown.Proofs.PropertyList.Parser
import Mathlib.Data.List.Nodup

/-!
This module contains what a field makes of its setting: the values that it takes, the directive that
each of them gives, and the error for each of the others. A field is known by its name.
-/

namespace DirectedMarkdown

open PropertyList (IsMalformed)

namespace FieldKind

/-- The value is of the expected kind, and no entry of it is malformed if it is a list. -/
def Takes (kind : FieldKind) (value : Value) : Prop :=
  value.kindName = kind.expected
    ∧ ∀ separator list, kind = .propertyList separator → value = .text list →
      ∀ piece ∈ Text.splitOn separator.toList list.toList, ¬IsMalformed piece

/-- The directive of a kind that nothing is asked of. -/
inductive IsDefault : (kind : FieldKind) → kind.Directive → Prop where
  | elementSuffix : IsDefault .elementSuffix ClosingStyle.selfClosingSlash
  | propertyList {separator : String} {entries : PropertyList}
    : entries.entries = [] → IsDefault (.propertyList separator) entries
  | flag (default : Bool) : IsDefault (.flag default) default
  | text (default : String) : IsDefault (.text default) default
  | optionalText : IsDefault .optionalText none

/-- The directive that goes with a value, or with a missing one. -/
inductive Gives : (kind : FieldKind) → Option Value → kind.Directive → Prop where
  | missing {kind : FieldKind} {directive : kind.Directive}
    : IsDefault kind directive → Gives kind none directive
  | null {kind : FieldKind} {directive : kind.Directive}
    : IsDefault kind directive → Gives kind (some .null) directive
  | bareAngleBracket : Gives .elementSuffix (some (.flag true)) ClosingStyle.bareAngleBracket
  | selfClosingSlash : Gives .elementSuffix (some (.flag false)) ClosingStyle.selfClosingSlash
  | propertyList {separator list : String} {entries : PropertyList}
    : PropertyList.parse list separator = .ok entries
      → Gives (.propertyList separator) (some (.text list)) entries
  | flag (default value : Bool) : Gives (.flag default) (some (.flag value)) value
  | text (default value : String) : Gives (.text default) (some (.text value)) value
  | optionalText (value : String) : Gives .optionalText (some (.text value)) (some value)

/-- The error that goes with a value, where `name` is the name of the setting. -/
inductive Fault (name : String) : FieldKind → Value → CompileError → Prop where
  | invalidFieldType {kind : FieldKind} {value : Value}
    : value ≠ .null → value.kindName ≠ kind.expected
      → Fault name kind value (.invalidFieldType name kind.expected value.kindName)
  | malformedPropertyEntry {separator list : String} {before after : List (List Char)}
      {piece : List Char}
    : Text.splitOn separator.toList list.toList = before ++ piece :: after
      → (∀ other ∈ before, ¬IsMalformed other) → IsMalformed piece
      → Fault name (.propertyList separator) (.text list)
          (.malformedPropertyEntry name (String.ofList (Text.trimChars piece)))

theorem isDefault_initial (kind : FieldKind) : kind.IsDefault kind.initial := by
  cases kind with
  | elementSuffix => exact .elementSuffix
  | propertyList separator => exact .propertyList rfl
  | flag default => exact .flag default
  | text default => exact .text default
  | optionalText => exact .optionalText

variable {name : String} {kind : FieldKind} {value : Value}

theorem takes_of_parse {separator list : String} {entries : PropertyList}
    (h : PropertyList.parse list separator = .ok entries)
    : (propertyList separator).Takes (.text list) := by
  refine ⟨rfl, ?_⟩
  rintro _ _ ⟨⟩ ⟨⟩
  exact (PropertyList.parse_eq_ok_iff.mp h).1

theorem takes_of_kindName_eq (h : value.kindName = kind.expected)
    (hlist : ∀ separator, kind ≠ .propertyList separator) : kind.Takes value :=
  ⟨h, fun separator _ hkind => absurd hkind (hlist separator)⟩

/-- Reading gives the directive of the value, or the error if the kind does not take it. -/
theorem read_spec (name : String) (kind : FieldKind) (value : Value)
    : match kind.read name value with
      | .ok directive => kind.Gives (some value) directive ∧ (value ≠ .null → kind.Takes value)
      | .error e => kind.Fault name value e := by
  generalize hread : kind.read name value = result
  unfold read at hread
  split at hread
  . subst hread
    exact ⟨.null (isDefault_initial _), fun hnull => absurd rfl hnull⟩
  . next html5 =>
    subst hread
    refine ⟨?_, fun _ => takes_of_kindName_eq rfl (by simp)⟩
    cases html5 with
    | true => exact .bareAngleBracket
    | false => exact .selfClosingSlash
  . next separator list =>
    subst hread
    cases hparse : PropertyList.parse list separator with
    | ok entries => exact ⟨.propertyList hparse, fun _ => takes_of_parse hparse⟩
    | error e =>
      obtain ⟨before, piece, after, heq, hbefore, hpiece, hentry⟩ :=
        PropertyList.parse_eq_error_iff.mp hparse
      dsimp only
      rw [hentry]
      exact .malformedPropertyEntry heq hbefore hpiece
  . subst hread
    exact ⟨.flag _ _, fun _ => takes_of_kindName_eq rfl (by simp)⟩
  . subst hread
    exact ⟨.text _ _, fun _ => takes_of_kindName_eq rfl (by simp)⟩
  . subst hread
    exact ⟨.optionalText _, fun _ => takes_of_kindName_eq rfl (by simp)⟩
  . next hnull _ _ _ _ _ =>
    subst hread
    apply Fault.invalidFieldType hnull
    -- All pairs of a kind and a value with one word have a case of their own above.
    cases kind <;> cases value <;> simp_all [Value.kindName, expected]

theorem Fault.ne_null {e : CompileError} (h : kind.Fault name value e) : value ≠ .null := by
  cases h with
  | invalidFieldType hnull _ => exact hnull
  | malformedPropertyEntry => simp

theorem Fault.not_takes {e : CompileError} (h : kind.Fault name value e) : ¬kind.Takes value := by
  intro htakes
  cases h with
  | invalidFieldType _ hkind => exact hkind htakes.1
  | malformedPropertyEntry heq _ hpiece =>
    apply htakes.2 _ _ rfl rfl _ _ hpiece
    rw [heq]
    simp

theorem accepts_iff : kind.accepts value ↔ value = .null ∨ value.kindName = kind.expected := by
  cases kind <;> cases value <;> simp [accepts, Value.kindName, expected]

theorem expected_eq_or (kind : FieldKind) : kind.expected = "boolean" ∨ kind.expected = "string" := by
  cases kind <;> simp [expected]

theorem Fault.eq_malformedPropertyEntry {e : CompileError} (h : kind.Fault name value e)
    (haccepts : kind.accepts value)
    : ∃ separator entry, kind = .propertyList separator ∧ e = .malformedPropertyEntry name entry := by
  cases h with
  | invalidFieldType hnull hkind => exact absurd (accepts_iff.mp haccepts) (by simp [hnull, hkind])
  | malformedPropertyEntry => exact ⟨_, _, rfl, rfl⟩

theorem read_of_not_accepts (h : kind.accepts value = false)
    : kind.read name value = .error (.invalidFieldType name kind.expected value.kindName) := by
  have hnot : ¬(value = .null ∨ value.kindName = kind.expected) := by
    rw [← accepts_iff, h]
    simp
  rw [not_or] at hnot
  have hspec := read_spec name kind value
  split at hspec
  . exact absurd (hspec.2 hnot.1).1 hnot.2
  . next hread =>
    rw [hread]
    cases hspec with
    | invalidFieldType => rfl
    | malformedPropertyEntry => exact absurd rfl hnot.2

end FieldKind

namespace Field

theorem mem_all (field : Field) : field ∈ all := by
  cases field <;> decide

theorem nodup_names : (all.map name).Nodup := by
  decide +kernel

theorem name_injective {field other : Field} (h : field.name = other.name) : field = other :=
  List.inj_on_of_nodup_map nodup_names field.mem_all other.mem_all h

theorem ofName?_eq_some_iff {name : String} {field : Field}
    : ofName? name = some field ↔ field.name = name := by
  unfold ofName?
  constructor
  . intro h
    simpa using List.find?_some h
  . rintro rfl
    cases hfind : all.find? (·.name = field.name) with
    | none =>
      have := List.find?_eq_none.mp hfind field field.mem_all
      simp at this
    | some other =>
      have hother := List.find?_some hfind
      rw [decide_eq_true_eq] at hother
      rw [name_injective hother]

end Field

end DirectedMarkdown
