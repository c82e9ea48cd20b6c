import DirectedMarkdown.Directive.Slot

/-!
This module contains the step from settings to directives. Each directive comes from its own
setting, and the first setting at fault, in the order of the fields, is reported.
-/

namespace DirectedMarkdown

/-- A compilation on its way through the fields. -/
structure Progress where
  directives : DirectiveSet
  /-- The number of settings that had an effect so far. -/
  applied : Nat

namespace Progress

def start : Progress where
  directives := DirectiveSet.initial
  applied := 0

/-- Goes on with a field. Its setting is counted, and its directive is put over the default. -/
def step (snapshot : Snapshot) (progress : Progress) (field : Field)
    : Except CompileError Progress :=
  match snapshot.get? field.name with
  | none => .ok progress
  | some value =>
    (field.kind.read field.name value).map fun directive =>
      { directives := progress.directives.set field directive, applied := progress.applied + 1 }

/-- The compilation of a snapshot when it is through all fields. -/
def run (snapshot : Snapshot) : Except CompileError Progress :=
  Field.all.foldlM (step snapshot) start

end Progress

/-- How many settings a compilation makes use of, and how many it leaves aside. -/
structure Tally where
  configured : Nat
  ignored : Nat
  deriving DecidableEq

/-- What the compilation of a snapshot gives. -/
structure Compilation where
  directives : DirectiveSet
  tally : Tally

/-- The compilation of a snapshot. Settings without a field have no effect. -/
def compilation (snapshot : Snapshot) : Except CompileError Compilation :=
  (Progress.run snapshot).map fun progress =>
    { directives := progress.directives,
      tally :=
        { configured := progress.applied, ignored := snapshot.size - progress.applied } }

/-- The directive set that the settings ask for. -/
def compile (snapshot : Snapshot) : Except CompileError DirectiveSet :=
  (compilation snapshot).map Compilation.directives

namespace Snapshot

/-- The names of the settings without a field. -/
def unknownNames (snapshot : Snapshot) : List String :=
  snapshot.names.filter fun name => (Field.ofName? name).isNone

end Snapshot

end DirectedMarkdown
