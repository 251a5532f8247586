import Mathlib.Algebra.Ring.Int.Defs
import Keyspace.HashKeyRange

/-!
The table of ranges divides the keyspace, and it says of every hash key what the mapper says.

The two are computed apart: a range begins at a quotient rounded up, the mapper rounds a product
down. What ties them is that a hash key lies at or behind the start of partition `i` exactly if its
own partition is `i` or a later one (`start_le_iff`), so the entry of `i` holds a hash key iff the
mapper sends it to `i` (`contains_entry_iff`). Nothing here asks how many partitions there are; with
more of them than hash keys some entries are empty.

    start n 0 = 0      start n i ≤ h ↔ i ≤ partition h n      start n n = 2 ^ 128
-/

namespace Keyspace.HashKeyRange

/-- Ranges that divide the keyspace among the `n` partitions of a count: in order, without gap or
    overlap, each holding the hash keys that the mapper sends to its partition. -/
structure Divides (count : Value) (n : Nat) (ranges : List HashKeyRange) : Prop where
  length_eq : ranges.length = n
  index_eq : ∀ (i : Nat) r, ranges[i]? = some r → r.index = i
  head_first : ranges.head?.map first = some 0
  getLast_last : ranges.getLast?.map last = some (HashKey.greatest : Int)
  adjacent : ∀ (i : Nat) r s, ranges[i]? = some r → ranges[i + 1]? = some s → s.first = r.last + 1
  contains_iff : ∀ (h : Int) (i : Nat) r, 0 ≤ h → h < HashKey.keyspaceSize →
    ranges[i]? = some r → (r.contains h ↔ HashKey.partitionOf (.int h) count = .ok i)
  covered_once : ∀ h : Int, 0 ≤ h → h < HashKey.keyspaceSize →
    ∃! i : Nat, ∃ r, ranges[i]? = some r ∧ r.contains h
  inside : ∀ (h : Int) r, r ∈ ranges → r.contains h → 0 ≤ h ∧ h < HashKey.keyspaceSize

/-- The entry of partition `i` in the table of `n` partitions. -/
def entry (n i : Nat) : HashKeyRange := ⟨i, start n i, (start n (i + 1) : Int) - 1⟩

/-! ### Starts -/

/-- Rounding up is the negated floor of the negated quotient. -/
theorem start_eq_neg_floor {n : Nat} (hn : 0 < n) (i : Nat) :
    (start n i : Int) = -(-((i * HashKey.keyspaceSize : Nat) : Int)).fdiv n := by
  have hle : start n i * n ≤ i * HashKey.keyspaceSize + (n - 1) := Nat.div_mul_le_self _ _
  have hlt : i * HashKey.keyspaceSize + (n - 1) < start n i * n + n := Nat.lt_div_mul_add hn
  have hprod : ((start n i * n : Nat) : Int) = (start n i : Int) * n := Int.natCast_mul _ _
  have hfloor : (-((i * HashKey.keyspaceSize : Nat) : Int)) / n = -(start n i : Int) := by
    rw [Int.ediv_eq_iff_of_pos (by omega), neg_mul, ← hprod]
    omega
  rw [Int.fdiv_eq_ediv_of_nonneg _ (by omega), hfloor, neg_neg]

theorem start_le_keyspaceSize {n i : Nat} (hn : 0 < n) (hi : i ≤ n) :
    start n i ≤ HashKey.keyspaceSize := by
  rw [start_le_iff hn, HashKey.partition_eq, Nat.mul_div_cancel_left _ (by decide)]
  exact hi

/-! ### Entries -/

theorem getElem?_table_eq_some_iff {n i : Nat} {r : HashKeyRange} :
    (table n)[i]? = some r ↔ i < n ∧ r = entry n i := by
  constructor
  · intro h
    have hi : i < n := by
      obtain ⟨hi, _⟩ := List.getElem?_eq_some_iff.1 h
      rwa [length_table] at hi
    rw [getElem?_table hi] at h
    exact ⟨hi, (Option.some.inj h).symm⟩
  · rintro ⟨hi, rfl⟩
    exact getElem?_table hi

theorem contains_eq_true_iff {r : HashKeyRange} {h : Int} :
    r.contains h ↔ r.first ≤ h ∧ h ≤ r.last := by
  simp [contains]

/-- An entry holds exactly the hash keys of its partition. -/
theorem contains_entry_iff {n : Nat} (hn : 0 < n) (i h : Nat) :
    (entry n i).contains h ↔ HashKey.partition h n = i := by
  have hfirst := start_le_iff (i := i) (h := h) hn
  have hlast := start_le_iff (i := i + 1) (h := h) hn
  rw [contains_eq_true_iff]
  simp only [entry]
  omega

/-- An entry holds nothing outside the keyspace. -/
theorem inside_of_contains_entry {n i : Nat} {h : Int} (hi : i < n)
    (hc : (entry n i).contains h) : 0 ≤ h ∧ h < HashKey.keyspaceSize := by
  have hle := start_le_keyspaceSize (n := n) (i := i + 1) (by omega) hi
  rw [contains_eq_true_iff] at hc
  simp only [entry] at hc
  omega

/-! ### The table -/

theorem tableFor_eq_ok {count : Value} {n : Nat} (hc : PartitionCount.normalize count = .ok n) :
    tableFor count = .ok (table n) := by
  rw [tableFor, hc]
  rfl

theorem head?_table {n : Nat} (hn : 0 < n) : (table n).head?.map first = some 0 := by
  rw [List.head?_eq_getElem?, getElem?_table hn, Option.map_some, start_zero hn]
  rfl

theorem getLast?_table {n : Nat} (hn : 0 < n) :
    (table n).getLast?.map last = some (HashKey.greatest : Int) := by
  rw [List.getLast?_eq_getElem?, length_table, getElem?_table (by omega), Option.map_some,
    Nat.sub_add_cancel hn, start_self hn]
  rfl

/-- Each hash key is held by the entry of its partition and by no other. -/
theorem existsUnique_contains {n : Nat} (hn : 0 < n) {h : Nat} (hh : h < HashKey.keyspaceSize) :
    ∃! i : Nat, ∃ r, (table n)[i]? = some r ∧ r.contains h := by
  refine ⟨HashKey.partition h n, ⟨entry n (HashKey.partition h n), ?_, ?_⟩, ?_⟩
  · exact getElem?_table (HashKey.partition_lt hh hn)
  · exact (contains_entry_iff hn _ h).2 rfl
  · rintro i ⟨r, hr, hc⟩
    obtain ⟨_, rfl⟩ := getElem?_table_eq_some_iff.1 hr
    exact ((contains_entry_iff hn i h).1 hc).symm

/-- The table for an accepted count divides the keyspace as the mapper does. -/
theorem tableFor_divides {count : Value} {n : Nat} (hc : PartitionCount.normalize count = .ok n) :
    ∃ ranges, tableFor count = .ok ranges ∧ Divides count n ranges := by
  have hn : 0 < n := (PartitionCount.normalize_eq_ok_iff.1 hc).2
  refine ⟨table n, by rw [tableFor, hc]; rfl, ?_⟩
  constructor
  · exact length_table n
  · intro i r hr
    obtain ⟨_, rfl⟩ := getElem?_table_eq_some_iff.1 hr
    rfl
  · exact head?_table hn
  · exact getLast?_table hn
  · intro i r s hr hs
    obtain ⟨_, rfl⟩ := getElem?_table_eq_some_iff.1 hr
    obtain ⟨_, rfl⟩ := getElem?_table_eq_some_iff.1 hs
    simp only [entry]
    omega
  · intro h i r h₀ hh hr
    obtain ⟨h, rfl⟩ := Int.eq_ofNat_of_zero_le h₀
    obtain ⟨_, rfl⟩ := getElem?_table_eq_some_iff.1 hr
    rw [contains_entry_iff hn, HashKey.partitionOf_nat hc (Int.ofNat_lt.1 hh), Except.ok.injEq]
  · intro h h₀ hh
    obtain ⟨h, rfl⟩ := Int.eq_ofNat_of_zero_le h₀
    exact existsUnique_contains hn (Int.ofNat_lt.1 hh)
  · intro h r hr hc
    obtain ⟨i, hri⟩ := List.mem_iff_getElem?.1 hr
    obtain ⟨hi, rfl⟩ := getElem?_table_eq_some_iff.1 hri
    exact inside_of_contains_entry hi hc

/-- One partition more than there are hash keys. -/
theorem tableFor_divides_beyond_keyspace :
    PartitionCount.normalize (.int 340282366920938463463374607431768211457) =
        .ok 340282366920938463463374607431768211457 ∧
      ∃ ranges, tableFor (.int 340282366920938463463374607431768211457) = .ok ranges ∧
        Divides (.int 340282366920938463463374607431768211457)
          340282366920938463463374607431768211457 ranges :=
  ⟨rfl, tableFor_divides rfl⟩

end Keyspace.HashKeyRange
