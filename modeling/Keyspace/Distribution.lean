import Keyspace.PartitionCount

/-!
How keys are distributed over partitions.

The summary counts every partition, also those without keys, but the total counts every index that
was given, also those outside the table: the tally's entry at a partition is how often its index
comes (`getElem?_tally`). Average and spread are doubles, each operation rounded once;
the comparison of a count with a threshold is exact.
-/

namespace Keyspace

/-- The counts of `partitionCount` partitions, and figures about them. The fields are integers of
any sign because a summary may also be put together by hand. -/
structure Distribution where
  partitionCount : Int
  totalKeys : Int
  counts : List Int
  maxCount : Int
  maxPartition : Int
  average : Float
  stddev : Float

namespace Distribution

/-- Whether an index is that of one of `n` partitions. -/
def inTable (n : Nat) (i : Int) : Bool := 0 ≤ i && i < n

/-- The counts with one more index; an index outside the table changes none. -/
def count (n : Nat) (counts : Array Nat) (i : Int) : Array Nat :=
  if inTable n i then counts.modify i.toNat (· + 1) else counts

/-- How often each partition's index comes. -/
def tally (n : Nat) (indexes : List Int) : List Nat :=
  (indexes.foldl (count n) (Array.replicate n 0)).toList

/-- How many indexes lie outside the table. -/
def dropped (n : Nat) (indexes : List Int) : Nat := indexes.countP (!inTable n ·)

/-- The greatest entry and the first place where it stands; `(0, 0)` for no entries. -/
def peak (counts : List Nat) : Nat × Nat :=
  match counts.zipIdx with
  | [] => (0, 0)
  | first :: rest => rest.foldl (fun best entry => if best.1 < entry.1 then entry else best) first

/-- The mean of the squared distances from `average`, added up from the first entry on. It is a
function of the arithmetic: doubles give the figure that is told, rationals its exact meaning. A
square is the product, rounded once; a power function that rounds less closely may end in another
last bit. -/
@[specialize]
def variance {α : Type} [Add α] [Sub α] [Mul α] [Div α] (ofNat : Nat → α) (average : α)
    (counts : List Nat) : α :=
  let square (c : Nat) : α :=
    let distance := ofNat c - average
    distance * distance
  counts.foldl (fun sum c => sum + square c) (ofNat 0) / ofNat counts.length

/-- The distribution of keys with the given partition indexes over `n` partitions. -/
def ofIndexes (n : Nat) (indexes : List Int) : Distribution :=
  let counts := tally n indexes
  let total := indexes.length
  let (maxCount, maxPartition) := peak counts
  let average := Binary64.quotient total n
  ⟨n, total, counts.map Int.ofNat, maxCount, maxPartition, average,
    (variance Float.ofNat average counts).sqrt⟩

/-- The distribution for a partition count that may be anything. -/
def summarize (count : Value) (indexes : List Int) : Except Error Distribution :=
  (PartitionCount.normalize count).map (ofIndexes · indexes)

/-- The part of all keys that a count is; zero if there are no keys. -/
def portion (d : Distribution) (count : Int) : Float :=
  if d.totalKeys = 0 then 0.0 else Binary64.quotient count d.totalKeys

/-- Refuses a count that is too large a multiple of all keys. No partition's count is, but one put
together by hand may be. -/
def checkPortion (d : Distribution) (count : Int) : Except Error Unit :=
  if d.totalKeys = 0 || (Binary64.quotient? count d.totalKeys).isSome then .ok ()
  else .error .quotientTooLarge

/-- The count at an index; negative indexes count back from the end of the table. -/
def countAt? (d : Distribution) (index : Int) : Option Int :=
  let i := if index < 0 then index + d.counts.length else index
  if i < 0 then none else d.counts[i.toNat]?

/-- Whether a machine word of 64 bits holds the index. -/
def isWord (index : Int) : Bool := -0x8000000000000000 ≤ index && index < 0x8000000000000000

/-- The part of all keys that lies in a partition. Without keys it is zero, whatever the index. -/
def share (d : Distribution) (index : Int) : Except Error Float :=
  if d.totalKeys = 0 then .ok 0.0
  else if !isWord index then .error .indexTooLarge
  else
    match d.countAt? index with
    | some count => (d.checkPortion count).map fun _ => d.portion count
    | none => .error .noSuchPartition

/-- The share of the partition with the most keys. -/
def maxShare (d : Distribution) : Except Error Float := d.share d.maxPartition

/-- A partition whose load is over a threshold. -/
structure HotPartition where
  index : Nat
  count : Int
  share : Float
  loadRatio : Float

/-- The factor as a double. Truth values count as one and zero; other values are no factors. -/
def factor? : Value → Except Error Float
  | .int n => match Binary64.ofInt? n with
    | some x => .ok x
    | none => .error .tooLargeForDouble
  | .real x => .ok x
  | .bool b => .ok (if b then 1.0 else 0.0)
  | v => .error (.factorKind v)

/-- The load of a count against the average; zero if the average is zero. -/
def loadRatio (d : Distribution) (count : Int) : Float :=
  if d.average == 0.0 then 0.0 else Binary64.ofInt count / d.average

/-- Refuses a count that no double is near to, where its load is asked for. -/
def checkLoad (d : Distribution) (count : Int) : Except Error Unit :=
  if d.average == 0.0 || (Binary64.ofInt? count).isSome then .ok () else .error .tooLargeForDouble

/-- What is told about a partition and its count. -/
def describe (d : Distribution) (entry : Int × Nat) : HotPartition :=
  ⟨entry.2, entry.1, d.portion entry.1, d.loadRatio entry.1⟩

/-- The counts over a threshold, each with its index, in the order of the table. -/
def overThreshold (d : Distribution) (threshold : Float) : List (Int × Nat) :=
  d.counts.zipIdx.filter fun entry => Binary64.exceeds entry.1 threshold

/-- Whether a partition comes no later than another in the order of load: more keys first, and of as
many the lower index. -/
def HotPartition.precedes (p q : HotPartition) : Bool :=
  q.count < p.count || (p.count == q.count && p.index ≤ q.index)

/-- The partitions over a threshold, in the order of load. -/
def hot (d : Distribution) (threshold : Float) : List HotPartition :=
  ((d.overThreshold threshold).map d.describe).mergeSort HotPartition.precedes

/-- The partitions with more than `factor` times the average number of keys, in the order of load.
-/
def hotBy (d : Distribution) (factor : Float) : List HotPartition := d.hot (d.average * factor)

/-- The factor that is used where none is given. -/
def defaultFactor : Value := .real 1.5

/-- The hot partitions for a factor that may be anything, also of a summary put together by hand. -/
def hotPartitions (d : Distribution) (factor : Value) : Except Error (List HotPartition) := do
  let f ← factor? factor
  (d.overThreshold (d.average * f)).forM fun entry => do
    d.checkPortion entry.1
    d.checkLoad entry.1
  return d.hotBy f

/-! ### The tally counts -/

theorem size_foldl_count (n : Nat) (indexes : List Int) (counts : Array Nat) :
    (indexes.foldl (count n) counts).size = counts.size := by
  induction indexes generalizing counts with
  | nil => rfl
  | cons i rest ih =>
    rw [List.foldl_cons, ih, count]
    split <;> simp

theorem getElem?_foldl_count {n k : Nat} (hk : k < n) (indexes : List Int) (counts : Array Nat) :
    (indexes.foldl (count n) counts)[k]? = counts[k]?.map (· + indexes.count (k : Int)) := by
  induction indexes generalizing counts with
  | nil => simp
  | cons i rest ih =>
    rw [List.foldl_cons, ih, List.count_cons]
    by_cases hi : i = k
    · subst hi
      have : inTable n k := by simp [inTable, hk]
      simp [count, this, Array.getElem?_modify, Function.comp_def]
      congr 1; funext x; omega
    · have hne : (i == (k : Int)) = false := by simpa using hi
      rw [hne]
      simp only [count]
      split
      · next hin =>
        have : i.toNat ≠ k := by
          simp [inTable] at hin; omega
        simp [Array.getElem?_modify, this]
      · simp

theorem length_tally (n : Nat) (indexes : List Int) : (tally n indexes).length = n := by
  simp [tally, size_foldl_count]

theorem getElem?_tally {n k : Nat} (hk : k < n) (indexes : List Int) :
    (tally n indexes)[k]? = some (indexes.count (k : Int)) := by
  simp [tally, getElem?_foldl_count hk, hk]

end Distribution

end Keyspace
