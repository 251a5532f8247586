import Keyspace.HashKey

/-!
The table of hash-key ranges.

Partition `i` of `n` holds the hash keys from `i * 2 ^ 128 / n`, rounded up, to just below the start
of partition `i + 1`. With more partitions than hash keys some ranges are empty: they end one below
their start. A hash key is at or behind the start of partition `i` exactly when its own partition is
`i` or a later one (`start_le_iff`).
-/

namespace Keyspace

/-- A partition and the first and last hash key that it holds. -/
structure HashKeyRange where
  index : Int
  first : Int
  last : Int
  deriving DecidableEq

namespace HashKeyRange

/-- Whether the range holds a hash key. -/
def contains (r : HashKeyRange) (h : Int) : Bool := r.first ≤ h && h ≤ r.last

/-- The least hash key of partition `i` of `n`, and of those after it. -/
def start (n i : Nat) : Nat := (i * HashKey.keyspaceSize + (n - 1)) / n

/-- The ranges of `n` partitions in order. -/
def table (n : Nat) : List HashKeyRange :=
  (List.range n).map fun (i : Nat) => ⟨i, start n i, (start n (i + 1) : Int) - 1⟩

/-- The ranges for a partition count that may be anything. -/
def tableFor (count : Value) : Except Error (List HashKeyRange) :=
  (PartitionCount.normalize count).map table

/-! ### Starts and table -/

theorem start_zero {n : Nat} (hn : 0 < n) : start n 0 = 0 := by
  rw [start, Nat.zero_mul, Nat.zero_add, Nat.div_eq_of_lt (by omega)]

theorem start_self {n : Nat} (hn : 0 < n) : start n n = HashKey.keyspaceSize := by
  rw [start, Nat.mul_add_div hn, Nat.div_eq_of_lt (by omega), Nat.add_zero]

theorem start_le_iff {n i h : Nat} (hn : 0 < n) : start n i ≤ h ↔ i ≤ HashKey.partition h n := by
  rw [start, HashKey.partition_eq, Nat.le_div_iff_mul_le (by decide),
    Nat.div_le_iff_le_mul_add_pred hn, Nat.mul_comm n]
  omega

theorem length_table (n : Nat) : (table n).length = n := by
  simp [table]

theorem getElem?_table {n i : Nat} (h : i < n) :
    (table n)[i]? = some ⟨i, start n i, (start n (i + 1) : Int) - 1⟩ := by
  simp [table, h]

end HashKeyRange

end Keyspace
