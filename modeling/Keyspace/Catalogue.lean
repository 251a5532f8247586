import Keyspace.Preset
import Keyspace.Results
import Keyspace.Sampling
import Keyspace.Service.Reply

/-!
The catalogue: the fixed figures and names that the library publishes.
-/

namespace Keyspace.Catalogue

/-- The public names of the operations and types, apart from the kinds of errors. -/
def operationNames : List Text :=
  ["AssignmentRecord", "DistributionSummary", "HashKeyRange", "PRESETS", "PatternPiece",
    "analyze_partition_keys", "compile_pattern", "find_hot_partitions", "generate_many",
    "generate_one", "md5_hex", "parse_keys", "partition_hash_ranges", "partition_key_to_hash_key",
    "partition_key_to_partition_index", "summarize_distribution", "to_hash_key",
    "to_partition_index"].map Text.lit

/-- All public names in order. -/
def publicNames : List Text :=
  (operationNames ++ ErrorKind.all.map ErrorKind.name).mergeSort Text.precedes

/-- The catalogue. -/
def toJson : Json :=
  .record [
    ("version", .text Service.version),
    ("keyspace_size", .numeral HashKey.keyspaceSize),
    ("max_hash_key", .numeral HashKey.greatest),
    ("max_repeat", .nat Pattern.maxRepeat),
    ("open_repeat_span", .nat Pattern.openSpan),
    ("max_generate_count", .nat Sampling.maxCount),
    ("default_pattern", .text Preset.defaultPattern),
    ("presets", .object (Preset.all.map fun p => (p.name, .text p.pattern))),
    ("kinds", .array (Pattern.kindNames.map .text)),
    ("exports", .array (publicNames.map .text))]

end Keyspace.Catalogue
