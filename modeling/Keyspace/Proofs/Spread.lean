import Mathlib.Algebra.BigOperators.Ring.Finset
import Mathlib.Algebra.Order.BigOperators.Group.List
import Mathlib.Algebra.Order.Field.Rat
import Mathlib.Tactic.FieldSimp
import Mathlib.Tactic.Linarith
import Mathlib.Tactic.Positivity
import Mathlib.Tactic.Ring
import Keyspace.Proofs.Summary

/-!
What the spread of a distribution means.

The average counts every key, also those that were dropped, while the squares are taken over the
partitions alone. So the average is not the mean of the counts but lies above it by the dropped keys
shared out, and the mean square about a point is least about the mean: about any other it is more by
the square of the distance (`mean_sq_sub`). All that the spread says follows from this, over
rationals, where nothing is rounded.

    counts    2   5   2   3        mean 3
    dropped   4                    average 4 = 3 + 4 / 4
                                   variance 1.5 + 1
-/

namespace Keyspace.Distribution

/-! ### Means -/

/-- The mean of rationals. -/
def mean (xs : List Rat) : Rat := xs.sum / xs.length

/-- The mean squared distance from the mean. -/
def populationVariance (xs : List Rat) : Rat := mean (xs.map fun x => (x - mean xs) ^ 2)

theorem sum_sq_sub (a : Rat) (xs : List Rat) :
    (xs.map fun x => (x - a) ^ 2).sum =
      (xs.map fun x => x ^ 2).sum - 2 * a * xs.sum + xs.length * a ^ 2 := by
  induction xs with
  | nil => simp
  | cons x xs ih =>
    simp only [List.map_cons, List.sum_cons, ih, List.length_cons, Nat.cast_succ]
    ring

section

variable {xs : List Rat}

theorem length_cast_pos (hne : xs ≠ []) : (0 : Rat) < xs.length := by
  exact_mod_cast List.length_pos_iff.2 hne

theorem length_mul_mean (hne : xs ≠ []) : xs.length * mean xs = xs.sum := by
  have hlen := (length_cast_pos hne).ne'
  rw [mean, mul_div_cancel₀ _ hlen]

/-- About a point other than the mean the mean square is more by the square of the distance. -/
theorem mean_sq_sub (hne : xs ≠ []) (a : Rat) :
    mean (xs.map fun x => (x - a) ^ 2) = populationVariance xs + (mean xs - a) ^ 2 := by
  have hlen := (length_cast_pos hne).ne'
  have hsum := length_mul_mean hne
  rw [populationVariance, mean, mean, sum_sq_sub, sum_sq_sub, ← hsum, List.length_map,
    List.length_map]
  field_simp
  ring

theorem populationVariance_eq (hne : xs ≠ []) :
    populationVariance xs = mean (xs.map fun x => x ^ 2) - mean xs ^ 2 := by
  have h := mean_sq_sub hne 0
  simp only [sub_zero] at h
  rw [h, add_sub_cancel_right]

theorem sum_sq_nonneg (a : Rat) (xs : List Rat) : 0 ≤ (xs.map fun x => (x - a) ^ 2).sum := by
  refine List.sum_nonneg fun y hy => ?_
  obtain ⟨x, _, rfl⟩ := List.mem_map.1 hy
  exact sq_nonneg _

theorem sum_sq_eq_zero_iff (a : Rat) (xs : List Rat) :
    (xs.map fun x => (x - a) ^ 2).sum = 0 ↔ ∀ x ∈ xs, x = a := by
  induction xs with
  | nil => simp
  | cons x xs ih =>
    rw [List.map_cons, List.sum_cons, List.forall_mem_cons, ← ih,
      add_eq_zero_iff_of_nonneg (sq_nonneg _) (sum_sq_nonneg a xs), sq_eq_zero_iff, sub_eq_zero]

theorem populationVariance_nonneg (xs : List Rat) : 0 ≤ populationVariance xs :=
  div_nonneg (sum_sq_nonneg _ xs) (Nat.cast_nonneg _)

/-- Numbers without spread are all the same. -/
theorem populationVariance_eq_zero_iff (hne : xs ≠ []) :
    populationVariance xs = 0 ↔ ∀ x ∈ xs, ∀ y ∈ xs, x = y := by
  have hlen := (length_cast_pos hne).ne'
  have hzero : populationVariance xs = 0 ↔ ∀ x ∈ xs, x = mean xs := by
    rw [← sum_sq_eq_zero_iff, populationVariance, mean, List.length_map, div_eq_zero_iff,
      or_iff_left hlen]
  rw [hzero]
  constructor
  · intro h x hx y hy
    rw [h x hx, h y hy]
  · intro h x hx
    have hall : xs = List.replicate xs.length x := List.eq_replicate_of_mem fun y hy => h y hy x hx
    have hsum : xs.sum = xs.length * x := by
      conv_lhs => rw [hall, List.sum_replicate, nsmul_eq_mul]
    rw [mean, hsum, mul_div_cancel_left₀ _ hlen]

theorem mean_le (hne : xs ≠ []) {b : Rat} (h : ∀ x ∈ xs, x ≤ b) : mean xs ≤ b := by
  rw [mean, div_le_iff₀' (length_cast_pos hne), ← nsmul_eq_mul]
  exact List.sum_le_card_nsmul xs b h

theorem le_mean (hne : xs ≠ []) {b : Rat} (h : ∀ x ∈ xs, b ≤ x) : b ≤ mean xs := by
  rw [mean, le_div_iff₀' (length_cast_pos hne), ← nsmul_eq_mul]
  exact List.card_nsmul_le_sum xs b h

end

/-! ### The figures of a summary, without rounding -/

/-- All keys of a summary shared out over its partitions. -/
def exactAverage (d : Distribution) : Rat := d.totalKeys / d.partitionCount

/-- The variance of a summary, computed as for doubles. -/
def exactVariance (d : Distribution) : Rat :=
  variance Nat.cast d.exactAverage (d.counts.map Int.toNat)

/-- The counts of a summary as rationals. -/
def exactCounts (d : Distribution) : List Rat := d.counts.map Int.cast

theorem foldl_add_eq_sum (f : Nat → Rat) (s : Rat) (counts : List Nat) :
    counts.foldl (fun sum c => sum + f c) s = s + (counts.map f).sum := by
  induction counts generalizing s with
  | nil => simp
  | cons c counts ih => rw [List.foldl_cons, ih, List.map_cons, List.sum_cons, add_assoc]

/-- The loop adds up squares of distances and divides by their number. -/
theorem variance_eq_mean (a : Rat) (counts : List Nat) :
    variance Nat.cast a counts = mean ((counts.map Nat.cast).map fun x : Rat => (x - a) ^ 2) := by
  simp only [variance, foldl_add_eq_sum (fun c : Nat => ((c : Rat) - a) * (c - a)), mean,
    Nat.cast_zero, zero_add, List.map_map, List.length_map, Function.comp_def, sq]

theorem toNat_counts (n : Nat) (indexes : List Int) :
    (ofIndexes n indexes).counts.map Int.toNat = tally n indexes := by
  change ((tally n indexes).map Int.ofNat).map Int.toNat = _
  rw [List.map_map]
  exact List.map_id _

theorem exactCounts_eq (n : Nat) (indexes : List Int) :
    (ofIndexes n indexes).exactCounts = (tally n indexes).map Nat.cast := by
  change ((tally n indexes).map Int.ofNat).map Int.cast = _
  rw [List.map_map]
  exact List.map_congr_left fun c _ => Int.cast_natCast c

theorem exactCounts_ne_nil {n : Nat} (hn : 0 < n) (indexes : List Int) :
    (ofIndexes n indexes).exactCounts ≠ [] := by
  rw [exactCounts_eq, ne_eq, List.map_eq_nil_iff]
  exact tally_ne_nil hn indexes

theorem length_exactCounts (n : Nat) (indexes : List Int) :
    (ofIndexes n indexes).exactCounts.length = n := by
  rw [exactCounts_eq, List.length_map, length_tally]

theorem exactVariance_eq_mean (n : Nat) (indexes : List Int) :
    (ofIndexes n indexes).exactVariance =
      mean ((ofIndexes n indexes).exactCounts.map
        fun x => (x - (ofIndexes n indexes).exactAverage) ^ 2) := by
  rw [exactVariance, toNat_counts, variance_eq_mean, exactCounts_eq]

/-- The counts add up to the keys that were not dropped. -/
theorem sum_exactCounts (n : Nat) (indexes : List Int) :
    (ofIndexes n indexes).exactCounts.sum = indexes.length - dropped n indexes := by
  have hsum : ((tally n indexes).sum : Rat) + dropped n indexes = indexes.length := by
    exact_mod_cast sum_tally_add_dropped n indexes
  rw [exactCounts_eq, ← Nat.cast_list_sum]
  linarith

/-- The average lies above the mean of the counts by the dropped keys shared out. -/
theorem mean_sub_average (n : Nat) (indexes : List Int) :
    mean (ofIndexes n indexes).exactCounts - (ofIndexes n indexes).exactAverage =
      -(dropped n indexes / n) := by
  have haverage : (ofIndexes n indexes).exactAverage = indexes.length / n := by
    simp [exactAverage, ofIndexes]
  rw [mean, sum_exactCounts, length_exactCounts, haverage]
  ring

/-- What is over the spread of the counts is the square of the dropped keys shared out. -/
theorem exactVariance_eq {n : Nat} (hn : 0 < n) (indexes : List Int) :
    (ofIndexes n indexes).exactVariance =
      populationVariance (ofIndexes n indexes).exactCounts + (dropped n indexes / n : Rat) ^ 2 := by
  rw [exactVariance_eq_mean, mean_sq_sub (exactCounts_ne_nil hn indexes), mean_sub_average, neg_sq]

/-! ### What they say -/

/-- What average and variance of a summary say about its counts, computed without rounding: the
    variance is taken about the average of all keys, and is more than that of the counts by as much
    as the dropped keys move the average away from their mean. -/
structure SpreadMeans (n : Nat) (indexes : List Int) (d : Distribution) : Prop where
  stddev_eq : d.stddev = (variance Float.ofNat d.average (d.counts.map Int.toNat)).sqrt
  average_eq : d.exactAverage = indexes.length / n
  variance_eq : d.exactVariance = (d.exactCounts.map fun c => (c - d.exactAverage) ^ 2).sum / n
  variance_eq_zero_iff : d.exactVariance = 0 ↔
    dropped n indexes = 0 ∧ ∀ c ∈ d.counts, ∀ e ∈ d.counts, c = e
  variance_eq_squares : dropped n indexes = 0 →
    d.exactVariance = (d.exactCounts.map fun c => c ^ 2).sum / n - d.exactAverage ^ 2
  average_between : dropped n indexes = 0 →
    ∃ least ∈ d.counts, (∀ c ∈ d.counts, least ≤ c) ∧ least ≤ d.exactAverage ∧
      d.exactAverage ≤ d.maxCount
  variance_excess : d.exactVariance =
    populationVariance d.exactCounts + (dropped n indexes / n : Rat) ^ 2

theorem spreadMeans_ofIndexes {n : Nat} (hn : 0 < n) (indexes : List Int) :
    SpreadMeans n indexes (ofIndexes n indexes) := by
  have hne := exactCounts_ne_nil hn indexes
  have hlen := length_exactCounts n indexes
  have hexcess := exactVariance_eq hn indexes
  have hmean := mean_sub_average n indexes
  have hn' : (n : Rat) ≠ 0 := by exact_mod_cast hn.ne'
  constructor
  · rw [toNat_counts]
    rfl
  · simp [exactAverage, ofIndexes]
  · rw [exactVariance_eq_mean, mean, List.length_map, hlen]
  · have hsame : (∀ x ∈ (ofIndexes n indexes).exactCounts,
        ∀ y ∈ (ofIndexes n indexes).exactCounts, x = y) ↔
        ∀ c ∈ (ofIndexes n indexes).counts, ∀ e ∈ (ofIndexes n indexes).counts, c = e := by
      simp only [exactCounts, List.forall_mem_map, Int.cast_inj]
    rw [hexcess, add_eq_zero_iff_of_nonneg (populationVariance_nonneg _) (sq_nonneg _),
      populationVariance_eq_zero_iff hne, hsame, sq_eq_zero_iff, div_eq_zero_iff, or_iff_left hn',
      Nat.cast_eq_zero, and_comm]
  · intro hdropped
    rw [hdropped, Nat.cast_zero, zero_div, neg_zero, sub_eq_zero] at hmean
    rw [hexcess, hdropped, populationVariance_eq hne, hmean, mean, List.length_map, hlen]
    simp
  · intro hdropped
    rw [hdropped, Nat.cast_zero, zero_div, neg_zero, sub_eq_zero] at hmean
    have hcounts : (ofIndexes n indexes).counts ≠ [] := by
      simpa [exactCounts] using hne
    obtain ⟨least, hleast⟩ : ∃ least, (ofIndexes n indexes).counts.min? = some least :=
      Option.ne_none_iff_exists'.1 (by simpa using hcounts)
    obtain ⟨hmem, hle⟩ := List.min?_eq_some_iff.1 hleast
    refine ⟨least, hmem, hle, ?_, ?_⟩
    · rw [← hmean]
      refine le_mean hne fun x hx => ?_
      obtain ⟨c, hc, rfl⟩ := List.mem_map.1 hx
      exact_mod_cast hle c hc
    · rw [← hmean]
      refine mean_le hne fun x hx => ?_
      obtain ⟨c, hc, rfl⟩ := List.mem_map.1 hx
      exact_mod_cast (countsExactly_ofIndexes hn indexes).le_maxCount c hc
  · exact hexcess

/-- For every count that is accepted, the average and the variance of a summary say this about it,
    whatever the indexes. -/
theorem summarize_spread {count : Value} {n : Nat} (hc : PartitionCount.normalize count = .ok n)
    (indexes : List Int) :
    ∃ d, summarize count indexes = .ok d ∧ SpreadMeans n indexes d :=
  ⟨_, summarize_eq_ok hc indexes,
    spreadMeans_ofIndexes (PartitionCount.normalize_eq_ok_iff.1 hc).2 indexes⟩

/-- Three partitions that are asked for as 3.75, each with one key, and two indexes outside: the
    counts are all the same, but the variance is the square of two thirds. -/
theorem summarize_spread_dropped :
    PartitionCount.normalize (.real 3.75) = .ok 3 ∧
      ∃ d, summarize (.real 3.75) [2, -1, 0, 1, 7] = .ok d ∧
        SpreadMeans 3 [2, -1, 0, 1, 7] d ∧ d.counts = [1, 1, 1] ∧ d.exactAverage = 5 / 3 ∧
        d.exactVariance = 4 / 9 := by
  have hc : PartitionCount.normalize (.real 3.75) = .ok 3 :=
    PartitionCount.normalize_eq_ok_iff.2 ⟨by decide +kernel, by decide⟩
  have hd := summarize_eq_ok hc [2, -1, 0, 1, 7]
  obtain ⟨d, hd', hspread⟩ := summarize_spread hc [2, -1, 0, 1, 7]
  obtain rfl := Except.ok.inj (hd.symm.trans hd')
  have hcounts : (ofIndexes 3 [2, -1, 0, 1, 7]).counts = [1, 1, 1] := by decide
  have haverage : (ofIndexes 3 [2, -1, 0, 1, 7]).exactAverage = 5 / 3 := by
    rw [hspread.average_eq]
    norm_num
  refine ⟨hc, _, hd, hspread, hcounts, haverage, ?_⟩
  rw [hspread.variance_eq, haverage, exactCounts, hcounts]
  norm_num

end Keyspace.Distribution
