import DirectedMarkdown.Configuration

/-!
This module contains adjustments: settings that are given apart from a file, and win over it.
-/

namespace DirectedMarkdown.Configuration

/-- Settings for switches, and after them settings that are given by name. -/
structure Adjustments where
  html5 : Option Bool
  breaks : Option Bool
  urls : Option Bool
  overrides : List (String × String)
  deriving DecidableEq

namespace Adjustments

/-- No adjustments. -/
def none : Adjustments where
  html5 := Option.none
  breaks := Option.none
  urls := Option.none
  overrides := []

instance : Inhabited Adjustments := ⟨none⟩

/-- The switches that are given, with the names of their settings. -/
def flags (adjustments : Adjustments) : List (String × Bool) :=
  [(Field.html5ElementSuffix.name, adjustments.html5),
    (Field.setBreaksEnabled.name, adjustments.breaks),
    (Field.setUrlsLinked.name, adjustments.urls)].filterMap
      fun (name, value) => value.map fun value => (name, value)

end Adjustments

/-- The words for the positions of a switch. -/
def switch? (word : String) : Option Bool :=
  if word = "true" ∨ word = "1" ∨ word = "yes" ∨ word = "on" then some true
  else if word = "false" ∨ word = "0" ∨ word = "no" ∨ word = "off" then some false
  else none

/-- The value that an override gives to a setting. -/
def overrideValue (name value : String) : Except Fault Value :=
  match Field.ofName? name with
  | none => .error (.unknownSetting name)
  | some field =>
    if field.kind.expected = "boolean" then
      match switch? value with
      | some value => .ok (.flag value)
      | none => .error (.notSwitch name value)
    else
      .ok (.text value)

/-- Puts overrides into a snapshot, one after the other. -/
def override (snapshot : Snapshot) : List (String × String) → Except Fault Snapshot
  | [] => .ok snapshot
  | (name, value) :: rest =>
    match overrideValue name value with
    | .error fault => .error fault
    | .ok value => override (snapshot.insert name value) rest

/-- The snapshot with the adjustments in it. -/
def adjust (snapshot : Snapshot) (adjustments : Adjustments) : Except Fault Snapshot :=
  override
    (adjustments.flags.foldl (fun acc (name, value) => acc.insert name (.flag value)) snapshot)
    adjustments.overrides

end DirectedMarkdown.Configuration
