import Keyspace.Text.Basic

/-!
Patterns with a name.
-/

namespace Keyspace

/-- A pattern and the name that it goes by. -/
structure Preset where
  name : Text
  pattern : Text

namespace Preset

/-- The pattern that is used where none is given: seventeen capital letters or digits. -/
def defaultPattern : Text := Text.lit "[A-Z0-9]\x7b17\x7d"

/-- Seventeen signs of a vehicle number, which has no I, O and Q. -/
def vehiclePattern : Text := Text.lit "[A-HJ-NPR-Z0-9]\x7b17\x7d"

/-- The presets in the order of their names. -/
def all : List Preset :=
  [⟨Text.lit "default", defaultPattern⟩, ⟨Text.lit "vin", vehiclePattern⟩]

/-- The preset with a name. -/
def find? (name : Text) : Option Preset := all.find? (·.name = name)

end Preset

end Keyspace
