import DirectedMarkdown.Proofs.Configuration.Entry
import DirectedMarkdown.Proofs.Directive.Field

/-!
This module contains what an entry of a document and an override say of a setting. Both are refused
if the field of the setting does not take the value; only a document may name a setting without a
field.
-/

namespace DirectedMarkdown.Configuration

/-- The value that an entry of a document stands for. Numbers stand for their texts. -/
inductive Stands : Toml.Value → Value → Prop where
  | bool (value : Bool) : Stands (.bool value) (.flag value)
  | text (value : String) : Stands (.text value) (.text value)
  | integer (value : Int) : Stands (.integer value) (.text (Toml.integerText value))
  | float (value : Binary64) : Stands (.float value) (.text value.toText)

/-- The field with this name, if there is one, expects values of this kind. -/
def Fits (name : String) (value : Value) : Prop :=
  ∀ field : Field, field.name = name → value.kindName = field.kind.expected

/-- The words that turn a switch on. -/
def onWords : List String := ["true", "1", "yes", "on"]

/-- The words that turn a switch off. -/
def offWords : List String := ["false", "0", "no", "off"]

/-- The value that a word gives to a field. -/
inductive Sets (field : Field) (word : String) : Value → Prop where
  | on : field.kind.expected = "boolean" → word ∈ onWords → Sets field word (.flag true)
  | off : field.kind.expected = "boolean" → word ∈ offWords → Sets field word (.flag false)
  | text : field.kind.expected = "string" → Sets field word (.text word)

variable {name word : String} {written : Toml.Value} {value : Value} {field : Field}

theorem settingValue_eq_ok_iff (name : String)
    : settingValue name written = .ok value ↔ Stands written value := by
  constructor
  . intro h
    unfold settingValue at h
    split at h
    . obtain rfl := Except.ok.inj h
      exact .bool _
    . obtain rfl := Except.ok.inj h
      exact .text _
    . obtain rfl := Except.ok.inj h
      exact .integer _
    . obtain rfl := Except.ok.inj h
      exact .float _
    . simp at h
    . simp at h
    . simp at h
  . intro h
    cases h <;> rfl

theorem Stands.unique {other : Value} (h : Stands written value) (hother : Stands written other)
    : value = other := by
  cases h <;> cases hother <;> rfl

theorem Stands.ne_null (h : Stands written value) : value ≠ .null := by
  cases h <;> simp

theorem checkKind_eq_ok_iff (name : String) (hnull : value ≠ .null)
    : checkKind name value = .ok () ↔ Fits name value := by
  have haccepts : ∀ field : Field,
      field.kind.accepts value ↔ value.kindName = field.kind.expected := by
    intro field
    rw [FieldKind.accepts_iff]
    simp [hnull]
  unfold checkKind Fits
  split
  . next hnone =>
    refine iff_of_true rfl ?_
    rintro field rfl
    rw [Field.ofName?_eq_some_iff.mpr rfl] at hnone
    simp at hnone
  . next field hsome =>
    obtain rfl := Field.ofName?_eq_some_iff.mp hsome
    have hfits : (∀ other : Field, other.name = field.name →
        value.kindName = other.kind.expected) ↔ field.kind.accepts value := by
      rw [haccepts]
      constructor
      . intro h
        exact h field rfl
      . intro h other hother
        rw [Field.name_injective hother]
        exact h
    rw [hfits]
    split
    . next h => simp [h]
    . next h => simp [h]

theorem readSetting_eq_ok_iff
    : readSetting name written = .ok value ↔ Stands written value ∧ Fits name value := by
  unfold readSetting
  rw [← settingValue_eq_ok_iff name]
  cases hvalue : settingValue name written with
  | error fault => simp
  | ok found =>
    have hcheck := checkKind_eq_ok_iff name ((settingValue_eq_ok_iff name).mp hvalue).ne_null
    dsimp only
    rw [Except.ok.injEq]
    cases hresult : checkKind name found with
    | error fault =>
      rw [hresult] at hcheck
      have hnot : ¬Fits name found := by simpa using hcheck
      refine iff_of_false (by simp [Except.map]) ?_
      rintro ⟨rfl, hfits⟩
      exact hnot hfits
    | ok _ =>
      have hfits := hcheck.mp hresult
      simp only [Except.map, Except.ok.injEq]
      constructor
      . rintro rfl
        exact ⟨rfl, hfits⟩
      . exact And.left

theorem switch?_eq_some_iff {position : Bool}
    : switch? word = some position ↔ word ∈ if position then onWords else offWords := by
  unfold switch?
  cases position with
  | true =>
    simp only [↓reduceIte, onWords, List.mem_cons, List.not_mem_nil, or_false]
    split
    . next hon => simp [hon]
    . next hon =>
      rw [iff_false_right hon]
      split <;> simp
  | false =>
    simp only [Bool.false_eq_true, ↓reduceIte, offWords, List.mem_cons, List.not_mem_nil, or_false]
    split
    . next hon => rcases hon with rfl | rfl | rfl | rfl <;> simp
    . split
      . next hoff => simp [hoff]
      . next hoff => simp [hoff]

theorem sets_of_switch? {position : Bool} (hboolean : field.kind.expected = "boolean")
    (h : switch? word = some position) : Sets field word (.flag position) := by
  rw [switch?_eq_some_iff] at h
  cases position with
  | true => exact .on hboolean h
  | false => exact .off hboolean h

theorem Sets.exists_switch? (h : Sets field word value) (hboolean : field.kind.expected = "boolean")
    : ∃ position, switch? word = some position ∧ value = .flag position := by
  cases h with
  | on _ hword => exact ⟨true, switch?_eq_some_iff.mpr hword, rfl⟩
  | off _ hword => exact ⟨false, switch?_eq_some_iff.mpr hword, rfl⟩
  | text hstring => simp [hboolean] at hstring

theorem overrideValue_eq_ok_iff
    : overrideValue name word = .ok value
        ↔ ∃ field : Field, field.name = name ∧ Sets field word value := by
  unfold overrideValue
  split
  . next hnone =>
    refine iff_of_false (by simp) ?_
    rintro ⟨field, hname, _⟩
    rw [Field.ofName?_eq_some_iff.mpr hname] at hnone
    simp at hnone
  . next field hsome =>
    have hname := Field.ofName?_eq_some_iff.mp hsome
    have hunique : (∃ other : Field, other.name = name ∧ Sets other word value)
        ↔ Sets field word value := by
      constructor
      . rintro ⟨other, hother, hsets⟩
        rwa [Field.name_injective (hname.trans hother.symm)]
      . intro hsets
        exact ⟨field, hname, hsets⟩
    rw [hunique]
    split
    . next hboolean =>
      split
      . next position hswitch =>
        constructor
        . intro h
          obtain rfl := Except.ok.inj h
          exact sets_of_switch? hboolean hswitch
        . intro h
          obtain ⟨other, hother, rfl⟩ := h.exists_switch? hboolean
          rw [hswitch] at hother
          rw [Option.some.inj hother]
      . next hswitch =>
        refine iff_of_false (by simp) ?_
        intro h
        obtain ⟨other, hother, _⟩ := h.exists_switch? hboolean
        simp [hswitch] at hother
    . next hboolean =>
      have hstring := field.kind.expected_eq_or.resolve_left hboolean
      constructor
      . intro h
        obtain rfl := Except.ok.inj h
        exact .text hstring
      . intro h
        cases h with
        | on h => exact absurd h hboolean
        | off h => exact absurd h hboolean
        | text => rfl

theorem Sets.unique {other : Value} (h : Sets field word value) (hother : Sets field word other)
    : value = other := by
  have hvalue := overrideValue_eq_ok_iff.mpr ⟨field, rfl, h⟩
  have hsame := overrideValue_eq_ok_iff.mpr ⟨field, rfl, hother⟩
  exact Except.ok.inj (hvalue.symm.trans hsame)

theorem Sets.kindName_eq (h : Sets field word value) : value.kindName = field.kind.expected := by
  cases h with
  | on hboolean _ => exact hboolean.symm
  | off hboolean _ => exact hboolean.symm
  | text hstring => exact hstring.symm

theorem Sets.ne_null (h : Sets field word value) : value ≠ .null := by
  cases h <;> simp

theorem exists_sets_iff
    : (∃ value, Sets field word value)
        ↔ (field.kind.expected = "boolean" → word ∈ onWords ++ offWords) := by
  rw [List.mem_append]
  constructor
  . rintro ⟨value, h⟩ hboolean
    cases h with
    | on _ hword => exact .inl hword
    | off _ hword => exact .inr hword
    | text hstring => simp [hboolean] at hstring
  . intro h
    cases field.kind.expected_eq_or with
    | inl hboolean =>
      cases h hboolean with
      | inl hword => exact ⟨_, .on hboolean hword⟩
      | inr hword => exact ⟨_, .off hboolean hword⟩
    | inr hstring => exact ⟨_, .text hstring⟩

/-- Every value that a field accepts, but null, can be given to it by an override. -/
theorem exists_sets_word_iff (hnull : value ≠ .null)
    : (∃ word, Sets field word value) ↔ field.kind.accepts value := by
  rw [FieldKind.accepts_iff]
  constructor
  . rintro ⟨word, h⟩
    exact .inr h.kindName_eq
  . intro h
    have hkind := h.resolve_left hnull
    cases value with
    | flag position =>
      cases position with
      | true => exact ⟨"true", .on hkind.symm (by decide)⟩
      | false => exact ⟨"false", .off hkind.symm (by decide)⟩
    | text content => exact ⟨content, .text hkind.symm⟩
    | null => exact absurd rfl hnull

/-- An extension that is put to names as it is. -/
def IsBare (extension : String) : Prop :=
  extension ≠ "" ∧ ∀ c ∈ ['/', '\\', '.'], c ∉ extension.toList

theorem checkExtension_eq_ok_iff {extension : String}
    : checkExtension extension = .ok () ↔ IsBare extension := by
  unfold checkExtension IsBare
  split
  . next hempty => simp [String.isEmpty_iff.mp hempty]
  . next hempty =>
    have hne : extension ≠ "" := fun heq => hempty (String.isEmpty_iff.mpr heq)
    split
    . next hany =>
      refine iff_of_false (by simp) ?_
      rintro ⟨_, hnot⟩
      obtain ⟨c, hmem, hc⟩ := List.any_eq_true.mp hany
      apply hnot c _ hmem
      simpa [or_assoc] using hc
    . next hany =>
      refine iff_of_true rfl ⟨hne, ?_⟩
      intro c hc hmem
      apply hany
      rw [List.any_eq_true]
      exact ⟨c, hmem, by simpa [or_assoc] using hc⟩

end DirectedMarkdown.Configuration
