import DirectedMarkdown.Proofs.Configuration.Layer
import DirectedMarkdown.Proofs.Directive.Compile

/-!
This module contains the shapes of the settings in a configuration that is loaded. Each field takes
the shape of its setting, so nothing but a malformed entry of a list is left to be found by the
compilation.
-/

namespace DirectedMarkdown.Configuration

open Session

variable {session : Session} {path : Option Path} {adjustments : Adjustments}
  {configuration : Configuration} {field : Field} {value : Value}

theorem Adjustments.expected_of_position? {position : Bool}
    (h : adjustments.position? field = some position) : field.kind.expected = "boolean" := by
  apply field.kind.expected_eq_or.resolve_right
  intro hstring
  simp [adjustments.position?_eq_none hstring] at h

/-- Whatever layer a setting comes from, it has been checked there. -/
theorem Layered.accepts {source : Source} (hsound : source.Sound)
    (h : Layered source.table adjustments field.name (some value)) : field.kind.accepts value := by
  rw [FieldKind.accepts_iff]
  cases h with
  | override hname _ hsets =>
    obtain rfl := Field.name_injective hname
    exact .inr hsets.kindName_eq
  | flag _ hname hposition =>
    obtain rfl := Field.name_injective hname
    exact .inr (Adjustments.expected_of_position? hposition).symm
  | table _ _ hmem hstands =>
    obtain ⟨other, hother, hfits⟩ := hsound.entries _ hmem
    rw [hstands.unique hother]
    exact .inr (hfits field rfl)

theorem accepts_of_load (h : (session.run (load path adjustments)).1 = .ok configuration)
    (hget : configuration.snapshot.get? field.name = some value) : field.kind.accepts value := by
  obtain ⟨before, hbase, hadjust, _⟩ := run_load_eq_ok_iff.mp h
  obtain ⟨source, hsource⟩ := exists_supplies_of_base hbase
  rw [hsource.run_base] at hbase
  have hsound := source.exists_configuration_eq_ok_iff.mp ⟨before, hbase⟩
  have hread := (Source.eq_of_configuration hbase).1
  have hlayered := Layered.of_adjust hsource.distinct hread hadjust field.name
  rw [hget] at hlayered
  exact hlayered.accepts hsound

/-- A field that is given a value of its shape can only be at fault as a list. -/
theorem compile_of_accepts {snapshot : Snapshot}
    (h : ∀ (field : Field) (value : Value), snapshot.get? field.name = some value →
      field.kind.accepts value)
    : (∃ d, compile snapshot = .ok d)
        ∨ ∃ (field : Field) (separator entry : String), field.kind = .propertyList separator
          ∧ compile snapshot = .error (.malformedPropertyEntry field.name entry) := by
  cases hcompile : compile snapshot with
  | ok d => exact .inl ⟨d, rfl⟩
  | error e =>
    obtain ⟨_, field, _, value, _, _, hget, hfault⟩ := firstFault_of_compile hcompile
    obtain ⟨separator, entry, hkind, rfl⟩ := hfault.eq_malformedPropertyEntry (h field value hget)
    exact .inr ⟨field, separator, entry, hkind, rfl⟩

theorem accepts_iff_read
    : field.kind.accepts value
        ↔ ∀ expected found, field.kind.read field.name value
          ≠ .error (.invalidFieldType field.name expected found) := by
  constructor
  . intro haccepts expected found hread
    have hspec := FieldKind.read_spec field.name field.kind value
    rw [hread] at hspec
    obtain ⟨_, _, _, heq⟩ := hspec.eq_malformedPropertyEntry haccepts
    simp at heq
  . intro h
    by_contra hnot
    exact h _ _ (FieldKind.read_of_not_accepts (by simpa using hnot))

theorem exists_overrideValue_iff
    : (∃ word, overrideValue field.name word = .ok value)
        ↔ value ≠ .null ∧ field.kind.accepts value := by
  have hsets : ∀ word, overrideValue field.name word = .ok value ↔ Sets field word value := by
    intro word
    rw [overrideValue_eq_ok_iff]
    constructor
    . rintro ⟨other, hother, h⟩
      rwa [Field.name_injective hother] at h
    . intro h
      exact ⟨field, rfl, h⟩
  simp only [hsets]
  constructor
  . rintro ⟨word, h⟩
    exact ⟨h.ne_null, (exists_sets_word_iff h.ne_null).mp ⟨word, h⟩⟩
  . rintro ⟨hnull, haccepts⟩
    exact (exists_sets_word_iff hnull).mpr haccepts

/--
The reading of a directive and the override of a setting agree with the field on the shape of a
value, and each setting of a configuration that is loaded has the shape that its field takes.
-/
theorem load_shaped
    : (∀ (field : Field) (value : Value),
        (field.kind.accepts value
          ↔ ∀ expected found, field.kind.read field.name value
            ≠ .error (.invalidFieldType field.name expected found))
        ∧ ((∃ word, overrideValue field.name word = .ok value)
          ↔ value ≠ .null ∧ field.kind.accepts value))
      ∧ ∀ (session : Session) (path : Option Path) (adjustments : Adjustments)
        (configuration : Configuration),
        (session.run (load path adjustments)).1 = .ok configuration →
          (∀ (field : Field) (value : Value),
            configuration.snapshot.get? field.name = some value → field.kind.accepts value)
          ∧ ((∃ d, compile configuration.snapshot = .ok d)
            ∨ ∃ (field : Field) (separator entry : String), field.kind = .propertyList separator
              ∧ compile configuration.snapshot
                = .error (.malformedPropertyEntry field.name entry)) := by
  refine ⟨fun field value => ⟨accepts_iff_read, exists_overrideValue_iff⟩, ?_⟩
  intro session path adjustments configuration h
  have haccepts : ∀ (field : Field) (value : Value),
      configuration.snapshot.get? field.name = some value → field.kind.accepts value :=
    fun _ _ => accepts_of_load h
  exact ⟨haccepts, compile_of_accepts haccepts⟩

/-- A list that no layer refuses is at fault when it is compiled. -/
theorem load_shaped_malformed
    : let document := "[formatter]\nlinkAttributes = 'bogus'\n"
      let session := Session.start { entries := [(["mdtf.toml"], .file document.toUTF8)] } [] ""
      let adjustments := { Adjustments.none with html5 := some true }
      ∃ configuration, (session.run (load none adjustments)).1 = .ok configuration
        ∧ compile configuration.snapshot
          = .error (.malformedPropertyEntry Field.linkAttributes.name "bogus")
        ∧ ∀ (field : Field) (value : Value),
          configuration.snapshot.get? field.name = some value → field.kind.accepts value := by
  intro document session adjustments
  let snapshot := (Snapshot.empty.insert "linkAttributes" (.text "bogus")).insert
    "html5ElementSuffix" (.flag true)
  let configuration : Configuration := ⟨snapshot, "html", some ⟨"/mdtf.toml"⟩⟩
  have hload : (session.run (load none adjustments)).1 = .ok configuration := by decide +kernel
  exact ⟨configuration, hload, by rfl, (load_shaped.2 session none adjustments _ hload).1⟩

end DirectedMarkdown.Configuration
