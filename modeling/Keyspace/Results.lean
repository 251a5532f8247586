import Keyspace.Assignment
import Keyspace.Distribution
import Keyspace.HashKeyRange
import Keyspace.Json.Basic
import Keyspace.Text.Utf8

/-!
Results in the data-exchange notation.

Hash keys are written as texts, because they have more digits than many readers keep of a number.
-/

namespace Keyspace

/-- An integer as a text. -/
def Json.numeral (n : Int) : Json := .text (Text.ofInt n)

/-- A natural number. -/
def Json.nat (n : Nat) : Json := .int n

mutual

/-- Whether the value can be sent: every text in it has a UTF-8 form and every real a numeral. -/
def Json.encodable : Json → Bool
  | .text t => Text.encodable t
  | .real x => x.isFinite
  | .array items => Json.allEncodable items
  | .object members => Json.membersEncodable members
  | _ => true

/-- Whether all the values can be sent. -/
def Json.allEncodable : List Json → Bool
  | [] => true
  | j :: rest => j.encodable && Json.allEncodable rest

/-- Whether the values of all the members can be sent, and their names. -/
def Json.membersEncodable : List (Text × Json) → Bool
  | [] => true
  | (name, j) :: rest => Text.encodable name && j.encodable && Json.membersEncodable rest

end

/-- The form of an assignment. -/
def Assignment.toJson (a : Assignment) : Json :=
  .record [("partition_key", .text a.key), ("digest", .text a.digest),
    ("hash_key", .numeral a.hashKey), ("partition_index", .nat a.partition)]

/-- The form of a range. -/
def HashKeyRange.toJson (r : HashKeyRange) : Json :=
  .record [("partition_index", .int r.index), ("starting_hash_key", .numeral r.first),
    ("ending_hash_key", .numeral r.last)]

/-- The form of a distribution, with the greatest share told beside it. -/
def Distribution.toJson (d : Distribution) (maxShare : Float) : Json :=
  .record [("partition_count", .int d.partitionCount), ("total_keys", .int d.totalKeys),
    ("counts", .array (d.counts.map .int)), ("max_count", .int d.maxCount),
    ("max_partition", .int d.maxPartition), ("max_share", .real maxShare),
    ("average", .real d.average), ("stddev", .real d.stddev)]

/-- The form of a distribution; the greatest share may fail. -/
def Distribution.toJson? (d : Distribution) : Except Error Json := d.maxShare.map d.toJson

/-- The form of a hot partition. -/
def Distribution.HotPartition.toJson (h : HotPartition) : Json :=
  .record [("partition_index", .nat h.index), ("count", .int h.count), ("share", .real h.share),
    ("load_ratio", .real h.loadRatio)]

end Keyspace
