import Mathlib.Algebra.Order.Floor.Div
import Mathlib.Data.Int.Interval
import Mathlib.Data.Set.Card
import Mathlib.Tactic.Ring
import Keyspace.Proofs.RangeTable

/-!
Partitions are as equal as integers allow.

A range is as wide as two neighbouring starts are apart, and both are quotients rounded up, so its
width is `2 ^ 128 / n` rounded down or rounded up (`exists_width`). The widths add up to the
keyspace, since each range begins where the one before it ends (`sum_widths`), and that leaves only
one number of ranges that can be one wider (`sum_of_near`). A width is the number of hash keys
that the mapper sends to the partition (`encard_hashKeys`). With more partitions than hash keys the
two widths are zero and one.

    start        0          1          2          3          n = 3
    width        | 2^128/3 + 1 | 2^128/3 | 2^128/3 |         2 ^ 128 mod 3 = 1
-/

namespace Keyspace.HashKeyRange

/-- The number of hash keys from the first to the last. -/
def width (r : HashKeyRange) : Int := r.last - r.first + 1

section

variable {n : Nat}

/-! ### Widths -/

/-- A start is less than one above the quotient that it rounds up. -/
theorem start_bounds (hn : 0 < n) (i : Nat) :
    i * HashKey.keyspaceSize ≤ start n i * n ∧
      start n i * n < i * HashKey.keyspaceSize + n := by
  have hle : start n i * n ≤ i * HashKey.keyspaceSize + (n - 1) := Nat.div_mul_le_self _ _
  have hlt : i * HashKey.keyspaceSize + (n - 1) < start n i * n + n := Nat.lt_div_mul_add hn
  omega

theorem start_le_succ (hn : 0 < n) (i : Nat) : start n i ≤ start n (i + 1) := by
  rw [start_le_iff hn]
  exact (Nat.le_succ i).trans ((start_le_iff hn).1 le_rfl)

/-- Neighbouring starts are as far apart as their quotients, rounded down or up. -/
theorem exists_width (hn : 0 < n) (i : Nat) :
    ∃ w : Nat, (entry n i).width = w ∧ start n (i + 1) = start n i + w ∧
      HashKey.keyspaceSize / n ≤ w ∧ w ≤ HashKey.keyspaceSize ⌈/⌉ n := by
  obtain ⟨w, hw⟩ := Nat.exists_eq_add_of_le (start_le_succ hn i)
  obtain ⟨hle, hlt⟩ := start_bounds hn i
  obtain ⟨hle', hlt'⟩ := start_bounds hn (i + 1)
  rw [hw, Nat.add_mul, Nat.add_mul, Nat.one_mul] at hle' hlt'
  refine ⟨w, ?_, hw, ?_, ?_⟩
  · simp only [width, entry]
    omega
  · rw [← Nat.lt_succ_iff, Nat.div_lt_iff_lt_mul hn, Nat.succ_mul]
    omega
  · rw [Nat.ceilDiv_eq_add_pred_div, Nat.le_div_iff_mul_le hn]
    omega

theorem ceil_le_floor_add_one (hn : 0 < n) (k : Nat) : k ⌈/⌉ n ≤ k / n + 1 := by
  have hlt := Nat.lt_div_mul_add (a := k) hn
  rw [Nat.ceilDiv_eq_add_pred_div, ← Nat.lt_succ_iff, Nat.div_lt_iff_lt_mul hn, Nat.succ_mul,
    Nat.succ_mul]
  omega

theorem width_eq_or_eq (hn : 0 < n) (i : Nat) :
    (entry n i).width = (HashKey.keyspaceSize / n : Nat) ∨
      (entry n i).width = (HashKey.keyspaceSize / n : Nat) + (1 : Int) := by
  obtain ⟨w, hw, _, hle, hle'⟩ := exists_width hn i
  have := ceil_le_floor_add_one hn HashKey.keyspaceSize
  omega

/-- The first `m` ranges reach up to the start behind them. -/
theorem sum_widths_range (hn : 0 < n) (m : Nat) :
    (((List.range m).map (entry n)).map width).sum = start n m := by
  induction m with
  | zero => rw [start_zero hn]; rfl
  | succ m ih =>
    obtain ⟨w, hw, hstart, _⟩ := exists_width hn m
    simp only [List.range_succ, List.map_append, List.sum_append, ih, List.map_singleton,
      List.sum_singleton, hw, hstart, Int.natCast_add]

theorem sum_widths (hn : 0 < n) :
    ((table n).map width).sum = (HashKey.keyspaceSize : Int) := by
  have h := sum_widths_range hn n
  rw [start_self hn] at h
  exact h

/-- Of numbers that are all `q` or one more, the sum tells how many are one more. -/
theorem sum_of_near {q : Int} {l : List Int} (h : ∀ w ∈ l, w = q ∨ w = q + 1) :
    l.sum = l.length * q + (l.countP (· = q + 1) : Nat) := by
  induction l with
  | nil => simp
  | cons w l ih =>
    rw [List.sum_cons, ih fun v hv => h v (by simp [hv])]
    rcases h w (by simp) with rfl | rfl
    · rw [List.countP_cons_of_neg (by simp), List.length_cons]
      push_cast
      ring
    · rw [List.countP_cons_of_pos (by simp), List.length_cons]
      push_cast
      ring

theorem mem_table_iff {r : HashKeyRange} : r ∈ table n ↔ ∃ i < n, r = entry n i := by
  rw [List.mem_iff_getElem?]
  simp only [getElem?_table_eq_some_iff]

/-- What is left of the keyspace when each range has its quotient makes ranges one wider. -/
theorem countP_wide (hn : 0 < n) :
    (table n).countP (fun r => r.width = (HashKey.keyspaceSize / n : Nat) + (1 : Int)) =
      HashKey.keyspaceSize % n := by
  have hnear : ∀ w ∈ (table n).map width, w = (HashKey.keyspaceSize / n : Nat) ∨
      w = (HashKey.keyspaceSize / n : Nat) + (1 : Int) := by
    intro w hw
    obtain ⟨r, hr, rfl⟩ := List.mem_map.1 hw
    obtain ⟨i, _, rfl⟩ := mem_table_iff.1 hr
    exact width_eq_or_eq hn i
  have hsum := sum_of_near hnear
  rw [sum_widths hn, List.length_map, length_table, List.countP_map, ← Int.natCast_mul,
    ← Int.natCast_add] at hsum
  have hrest := Int.ofNat.inj hsum
  have hdiv := Nat.div_add_mod HashKey.keyspaceSize n
  exact Nat.add_left_cancel (hrest.symm.trans hdiv.symm)

/-! ### Hash keys of a partition -/

/-- The mapper sends to a partition exactly what its range holds. -/
theorem partitionOf_eq_ok_iff {count : Value} (hc : PartitionCount.normalize count = .ok n)
    {i : Nat} (hi : i < n) (h : Int) :
    HashKey.partitionOf (.int h) count = .ok i ↔ (entry n i).contains h := by
  have hn : 0 < n := (PartitionCount.normalize_eq_ok_iff.1 hc).2
  by_cases hh : 0 ≤ h ∧ h < HashKey.keyspaceSize
  · obtain ⟨h, rfl⟩ := Int.eq_ofNat_of_zero_le hh.1
    rw [HashKey.partitionOf_nat hc (Int.ofNat_lt.1 hh.2), contains_entry_iff hn, Except.ok.injEq]
  · have hout : ¬ (0 ≤ h ∧ h ≤ HashKey.greatest) := by
      have hpos : 0 < HashKey.keyspaceSize := by decide
      unfold HashKey.greatest
      omega
    refine iff_of_false ?_ fun hcontains => hh (inside_of_contains_entry hi hcontains)
    simp [HashKey.partitionOf, hc, hout, bind, Except.bind]

/-- The width of a range is the number of hash keys that the mapper sends to its partition. -/
theorem encard_hashKeys {count : Value} (hc : PartitionCount.normalize count = .ok n) {i : Nat}
    (hi : i < n) :
    {h : Int | HashKey.partitionOf (.int h) count = .ok i}.encard =
      ((entry n i).width.toNat : ENat) := by
  have hset : {h : Int | HashKey.partitionOf (.int h) count = .ok i} =
      (Finset.Icc (entry n i).first (entry n i).last : Finset Int) := by
    ext h
    rw [Set.mem_ofPred_eq, partitionOf_eq_ok_iff hc hi, contains_eq_true_iff, Finset.mem_coe,
      Finset.mem_Icc]
  rw [hset, Set.encard_coe_eq_coe_finsetCard, Int.card_Icc]
  congr 2
  simp only [width]
  omega

/-- The greatest hash key goes to the last partition, unless there are more partitions than hash
    keys. -/
theorem partition_greatest (hn : 0 < n) :
    (n ≤ HashKey.keyspaceSize → HashKey.partition HashKey.greatest n = n - 1) ∧
      (HashKey.keyspaceSize < n → HashKey.partition HashKey.greatest n < n - 1) := by
  have hpos : 0 < HashKey.keyspaceSize := by decide
  have hfront : HashKey.greatest * n + n = n * HashKey.keyspaceSize := by
    rw [← Nat.succ_mul, Nat.mul_comm]
    rfl
  have hback : (n - 1) * HashKey.keyspaceSize + HashKey.keyspaceSize =
      n * HashKey.keyspaceSize := by
    rw [← Nat.succ_mul]
    congr 1
    omega
  rw [HashKey.partition_eq]
  constructor
  · intro hle
    rw [Nat.div_eq_iff hpos]
    omega
  · intro hlt
    rw [Nat.div_lt_iff_lt_mul hpos]
    omega

/-! ### The table -/

/-- Ranges of `n` partitions that are as equal as integers allow, in their widths and in the numbers
    of hash keys that the mapper sends to their partitions. -/
structure Even (count : Value) (n : Nat) (ranges : List HashKeyRange) : Prop where
  width_eq : ∀ r ∈ ranges, r.width = (HashKey.keyspaceSize / n : Nat) ∨
    r.width = (HashKey.keyspaceSize ⌈/⌉ n : Nat)
  sum_width : (ranges.map width).sum = HashKey.keyspaceSize
  countP_wider : ranges.countP (fun r => r.width = (HashKey.keyspaceSize / n : Nat) + (1 : Int)) =
    HashKey.keyspaceSize % n
  encard_eq : ∀ (i : Nat) r, ranges[i]? = some r →
    {h : Int | HashKey.partitionOf (.int h) count = .ok i}.encard = (r.width.toNat : ENat)
  /-- With no more partitions than hash keys, each of them has one. -/
  few : n ≤ HashKey.keyspaceSize → (∀ r ∈ ranges, r.first ≤ r.last) ∧
    HashKey.partitionOf (.int HashKey.greatest) count = .ok (n - 1)
  /-- With more partitions than hash keys, each hash key has a partition of its own. -/
  many : HashKey.keyspaceSize < n →
    ranges.countP (fun r => r.first ≤ r.last) = HashKey.keyspaceSize ∧
      (∀ r ∈ ranges, r.first ≤ r.last → ∃! h : Int, r.contains h) ∧
      ∃ i < n - 1, HashKey.partitionOf (.int HashKey.greatest) count = .ok i

theorem first_le_last_iff {r : HashKeyRange} : r.first ≤ r.last ↔ 1 ≤ r.width := by
  simp only [width]
  omega

/-- The table for an accepted count is even. -/
theorem tableFor_even {count : Value} (hc : PartitionCount.normalize count = .ok n) :
    ∃ ranges, tableFor count = .ok ranges ∧ Even count n ranges := by
  have hn : 0 < n := (PartitionCount.normalize_eq_ok_iff.1 hc).2
  have hpos : 0 < HashKey.keyspaceSize := by decide
  have hgreatest : HashKey.partitionOf (.int HashKey.greatest) count =
      .ok (HashKey.partition HashKey.greatest n) :=
    HashKey.partitionOf_nat hc (Nat.pred_lt hpos.ne')
  refine ⟨table n, tableFor_eq_ok hc, ?_, sum_widths hn, countP_wide hn, ?_, ?_, ?_⟩
  · intro r hr
    obtain ⟨i, _, rfl⟩ := mem_table_iff.1 hr
    obtain ⟨w, hw, _, hle, hle'⟩ := exists_width hn i
    have := ceil_le_floor_add_one hn HashKey.keyspaceSize
    omega
  · intro i r hr
    obtain ⟨hi, rfl⟩ := getElem?_table_eq_some_iff.1 hr
    exact encard_hashKeys hc hi
  · intro hle
    refine ⟨?_, by rw [hgreatest, (partition_greatest hn).1 hle]⟩
    intro r hr
    obtain ⟨i, _, rfl⟩ := mem_table_iff.1 hr
    obtain ⟨w, hw, _, hfloor, _⟩ := exists_width hn i
    have hone : 1 ≤ HashKey.keyspaceSize / n := (Nat.one_le_div_iff hn).2 hle
    rw [first_le_last_iff, hw]
    omega
  -- The quotient is zero, so the ranges with a hash key are those that are one wider.
  · intro hlt
    have hzero : HashKey.keyspaceSize / n = 0 := Nat.div_eq_of_lt hlt
    have hone : ∀ r ∈ table n, r.first ≤ r.last ↔ r.width = 1 := by
      intro r hr
      obtain ⟨i, _, rfl⟩ := mem_table_iff.1 hr
      rcases width_eq_or_eq hn i with hw | hw <;> rw [first_le_last_iff, hw, hzero] <;> decide
    refine ⟨?_, ?_, _, (partition_greatest hn).2 hlt, hgreatest⟩
    · have hwide := countP_wide hn
      rw [hzero, Nat.mod_eq_of_lt hlt] at hwide
      rw [← hwide]
      exact List.countP_congr fun r hr => by simpa using hone r hr
    · intro r hr hle
      have hw := (hone r hr).1 hle
      refine ⟨r.first, contains_eq_true_iff.2 ⟨le_rfl, hle⟩, ?_⟩
      intro h hcontains
      rw [contains_eq_true_iff] at hcontains
      simp only [width] at hw
      omega

/-- One partition more than there are hash keys, asked for as an integer. -/
theorem tableFor_even_beyond_keyspace :
    PartitionCount.normalize (.int 340282366920938463463374607431768211457) =
        .ok 340282366920938463463374607431768211457 ∧
      ∃ ranges, tableFor (.int 340282366920938463463374607431768211457) = .ok ranges ∧
        Even (.int 340282366920938463463374607431768211457)
          340282366920938463463374607431768211457 ranges :=
  ⟨rfl, tableFor_even rfl⟩

end

end Keyspace.HashKeyRange
