import Keyspace.Preset
import Keyspace.Value

/-!
Settings and their defaults. Settings come from texts, and no text is read as an integer with more
digits than integers are written with: so their integers are figures.
-/

namespace Keyspace

/-- How keys are assigned, and how much of it a request may ask for. -/
structure PartitioningSettings where
  defaultPartitionCount : Figure := ⟨8, .refl true⟩
  hotPartitionFactor : Float := 1.5
  maxListedRanges : Figure := ⟨4096, .refl true⟩
  maxPartitionCount : Figure := ⟨100000, .refl true⟩

/-- How keys are generated. -/
structure KeygenSettings where
  defaultPattern : Text := Preset.defaultPattern
  defaultCount : Figure := ⟨1000, .refl true⟩

/-- Where the journal goes, and from which level on. -/
structure LoggingSettings where
  level : Text := Text.lit "INFO"
  logFile : Option Text := none

/-- All settings. -/
structure Settings where
  appName : Text := Text.lit "shardscope"
  appVersion : Text := Text.lit "1.0.0"
  debug : Bool := false
  apiHost : Text := Text.lit "0.0.0.0"
  apiPort : Figure := ⟨8000, .refl true⟩
  partitioning : PartitioningSettings := {}
  keygen : KeygenSettings := {}
  logging : LoggingSettings := {}

end Keyspace
