import Keyspace.Proofs.Binary64.Quotients
import Keyspace.Proofs.Summary

/-!
The figures of a distribution are finite.

Indexes of lists are machine words, so neither partitions nor keys are more than `2 ^ 63`
(`Addressable`). Then a share is at most one, the average is at least `2 ^ -63` if there is a key,
and a load is at most `2 ^ 126`. The spread needs no bound on the number of partitions for its sum
of squares: from `2 ^ 54` times the greatest square on, what is added is lost
(`Binary64.nearest_le_of_le_add`).
-/

namespace Keyspace

open Binary64

namespace Distribution

/-- The least number that is too large for an index of a list. -/
def lengthLimit : Nat := 2 ^ 63

/-! ### Rationals that a double is near to -/

/-- A double whose rational lies between zero and a power of two. -/
def Within (k : Int) (x : Float) : Prop := ∃ q, rational? x = some q ∧ 0 ≤ q ∧ q ≤ 2 ^ k

theorem Within.isFinite {k : Int} {x : Float} (h : Within k x) : x.isFinite := by
  obtain ⟨q, hq, _, _⟩ := h
  exact isFinite_of_rational? hq

theorem within_zero (k : Int) : Within k 0.0 := by
  refine ⟨0, ?_, le_rfl, by positivity⟩
  decide +kernel

theorem nearest_bounds {q : Rat} {k : Int} (hk : -1074 ≤ k) (h0 : 0 ≤ q) (hq : q ≤ 2 ^ k) :
    0 ≤ nearest q ∧ nearest q ≤ 2 ^ k :=
  ⟨nearest_nonneg h0, (nearest_mono hq).trans_eq (nearest_two_zpow hk)⟩

theorem within_ofNat {n : Nat} {k : Int} (h0 : 0 ≤ k) (hk : k ≤ 1023) (hn : (n : Rat) ≤ 2 ^ k) :
    Within k (Float.ofNat n) := by
  obtain ⟨hnonneg, hle⟩ := nearest_bounds (by omega) (Nat.cast_nonneg n) hn
  exact ⟨_, rational?_ofNat (by omega) (nearest_lt_two_zpow (by omega) hn), hnonneg, hle⟩

theorem within_quotient {a b k : Int} (ha : 0 ≤ a) (hb : 0 < b) (hk : -1074 ≤ k) (hk' : k ≤ 1023)
    (h : (a : Rat) / b ≤ 2 ^ k) : Within k (quotient a b) := by
  have h0 : (0 : Rat) ≤ a / b := div_nonneg (by exact_mod_cast ha) (by exact_mod_cast hb.le)
  obtain ⟨hnonneg, hle⟩ := nearest_bounds hk h0 h
  refine ⟨_, rational?_quotient hb.ne' (k := k + 1) (by omega) ?_, hnonneg, hle⟩
  rw [abs_of_nonneg h0]
  exact nearest_lt_two_zpow hk h

/-! ### Counts -/

theorem le_of_mem_tally {n c : Nat} {indexes : List Int} (hc : c ∈ tally n indexes) :
    c ≤ indexes.length := by
  rw [tally_eq_map] at hc
  obtain ⟨i, _, rfl⟩ := List.mem_map.1 hc
  exact List.count_le_length

/-! ### Average and spread -/

section

variable {k : Int} {average : Float} {counts : List Nat}

/-- The square of a distance from the average, as doubles come to it. -/
def square (average : Float) (c : Nat) : Float :=
  let distance := Float.ofNat c - average
  distance * distance

theorem within_square (h0 : 0 ≤ k) (hk : 2 * k ≤ 1023) (ha : Within k average) {c : Nat}
    (hc : (c : Rat) ≤ 2 ^ k) : Within (2 * k) (square average c) := by
  obtain ⟨a, ha, ha0, hak⟩ := ha
  obtain ⟨q, hq, hq0, hqk⟩ := within_ofNat h0 (by omega) hc
  have hdistance : |q - a| ≤ 2 ^ k := by
    rw [abs_le]
    constructor <;> linarith
  have hsub := rational?_sub hq ha (k := k + 1) (by omega)
    (nearest_lt_two_zpow (by omega) hdistance)
  have habs : |nearest (q - a)| ≤ 2 ^ k := abs_nearest_le (by omega) hdistance
  have hsquare : nearest (q - a) * nearest (q - a) ≤ 2 ^ (2 * k) := by
    rw [← abs_mul_abs_self, two_mul, zpow_add₀ two_ne_zero]
    exact mul_self_le_mul_self (abs_nonneg _) habs
  obtain ⟨hnonneg, hle⟩ := nearest_bounds (by omega) (mul_self_nonneg _) hsquare
  refine ⟨_, rational?_mul hsub hsub (k := 2 * k + 1) (by omega) ?_, hnonneg, hle⟩
  rw [abs_of_nonneg (mul_self_nonneg _)]
  exact nearest_lt_two_zpow (by omega) hsquare

/-- A sum of squares stays where one square more would be lost. -/
theorem within_sum (h0 : 0 ≤ k) (hk : 2 * k + 54 ≤ 1022) (ha : Within k average)
    (hc : ∀ c ∈ counts, (c : Rat) ≤ 2 ^ k) {sum : Float} (hs : Within (2 * k + 54) sum) :
    Within (2 * k + 54) (counts.foldl (fun sum c => sum + square average c) sum) := by
  induction counts generalizing sum with
  | nil => exact hs
  | cons c counts ih =>
    refine ih (fun c hmem => hc c (by simp [hmem])) ?_
    obtain ⟨a, hsum, ha0, hak⟩ := hs
    obtain ⟨b, hb, hb0, hbk⟩ := within_square h0 (by omega) ha (hc c (by simp))
    have hadd : a + b ≤ 2 ^ (2 * k + 54) + 2 ^ (2 * k + 54 - 54) := by
      rw [add_sub_cancel_right]
      linarith
    have hlost : nearest (a + b) ≤ 2 ^ (2 * k + 54) := nearest_le_of_le_add (by omega) hadd
    refine ⟨_, rational?_add hsum hb (k := 2 * k + 54 + 1) (by omega) ?_,
      nearest_nonneg (by linarith), hlost⟩
    rw [abs_of_nonneg (by linarith), zpow_add_one₀ two_ne_zero]
    have hpos : (0 : Rat) < 2 ^ (2 * k + 54) := by positivity
    linarith

theorem isFinite_sqrt_variance (h0 : 0 ≤ k) (hk : 2 * k + 54 ≤ 1022) (ha : Within k average)
    (hc : ∀ c ∈ counts, (c : Rat) ≤ 2 ^ k) (hlen : counts ≠ [])
    (hlen' : (counts.length : Rat) ≤ 2 ^ k) :
    (variance Float.ofNat average counts).sqrt.isFinite := by
  have hzero : Within (2 * k + 54) (Float.ofNat 0) :=
    within_ofNat (by omega) (by omega) (by rw [Nat.cast_zero]; positivity)
  obtain ⟨q, hq, hq0, hqk⟩ := within_sum h0 hk ha hc hzero
  have hpos : (1 : Rat) ≤ counts.length := by exact_mod_cast List.length_pos_iff.2 hlen
  have hn := rational?_ofNat (n := counts.length) (k := k + 1) (by omega)
    (nearest_lt_two_zpow (by omega) hlen')
  have hone : (1 : Rat) ≤ nearest counts.length := by
    have h := nearest_mono hpos
    rwa [← zpow_zero 2, nearest_two_zpow (by decide), zpow_zero] at h
  have hdiv : q / nearest counts.length ≤ 2 ^ (2 * k + 54) := (div_le_self hq0 hone).trans hqk
  have hdiv0 : 0 ≤ q / nearest counts.length := div_nonneg hq0 (by linarith)
  have hvariance : rational? (variance Float.ofNat average counts) =
      some (nearest (q / nearest counts.length)) := by
    refine rational?_div hq hn (by linarith) (k := 2 * k + 54 + 1) (by omega) ?_
    rw [abs_of_nonneg hdiv0]
    exact nearest_lt_two_zpow (by omega) hdiv
  obtain ⟨r, hr⟩ := exists_rational?_sqrt hvariance (nearest_nonneg hdiv0)
  exact isFinite_of_rational? hr

end

/-! ### The whole summary -/

section

variable {n : Nat} {indexes : List Int}

/-- Partitions and keys that lists can hold. -/
structure Addressable (n : Nat) (indexes : List Int) : Prop where
  pos : 0 < n
  partitions_le : n ≤ lengthLimit
  keys_le : indexes.length ≤ lengthLimit

theorem cast_le_of_le_lengthLimit {m : Nat} (h : m ≤ lengthLimit) : (m : Rat) ≤ 2 ^ (63 : Int) := by
  have h' : m ≤ 2 ^ 63 := h
  exact_mod_cast h'

theorem average_le (h : Addressable n indexes) : (indexes.length : Rat) / n ≤ 2 ^ (63 : Int) :=
  (div_le_self (Nat.cast_nonneg _) (by exact_mod_cast h.pos)).trans
    (cast_le_of_le_lengthLimit h.keys_le)

theorem rational?_average (h : Addressable n indexes) :
    rational? (ofIndexes n indexes).average = some (nearest (indexes.length / n)) := by
  have hn : (n : Int) ≠ 0 := by exact_mod_cast h.pos.ne'
  have hle := average_le h
  have hquotient := rational?_quotient (a := indexes.length) hn (k := 63 + 1) (by decide)
  rw [Int.cast_natCast, Int.cast_natCast, abs_of_nonneg (by positivity)] at hquotient
  exact hquotient (nearest_lt_two_zpow (by decide) hle)

theorem within_average (h : Addressable n indexes) :
    Within 63 (ofIndexes n indexes).average := by
  obtain ⟨hnonneg, hle⟩ := nearest_bounds (by decide) (by positivity) (average_le h)
  exact ⟨_, rational?_average h, hnonneg, hle⟩

/-- The average of one key or more over addressable partitions is not too small to divide by. -/
theorem le_nearest_average (h : Addressable n indexes) (hne : indexes ≠ []) :
    2 ^ (-63 : Int) ≤ nearest (indexes.length / n) := by
  have hn : (0 : Rat) < n := by exact_mod_cast h.pos
  have hn' : (n : Rat) ≤ 2 ^ (63 : Int) := cast_le_of_le_lengthLimit h.partitions_le
  have htotal : (1 : Rat) ≤ indexes.length := by exact_mod_cast List.length_pos_iff.2 hne
  refine le_nearest (by decide) ?_
  rw [le_div_iff₀ hn, zpow_neg]
  calc (2 ^ (63 : Int))⁻¹ * (n : Rat) ≤ (2 ^ (63 : Int))⁻¹ * 2 ^ (63 : Int) :=
        mul_le_mul_of_nonneg_left hn' (by positivity)
    _ = 1 := inv_mul_cancel₀ (by positivity)
    _ ≤ indexes.length := htotal

theorem isFinite_stddev (h : Addressable n indexes) : (ofIndexes n indexes).stddev.isFinite := by
  refine isFinite_sqrt_variance (k := 63) (by decide) (by decide) (within_average h) ?_ ?_ ?_
  · intro c hc
    exact cast_le_of_le_lengthLimit ((le_of_mem_tally hc).trans h.keys_le)
  · rw [← List.length_pos_iff, length_tally]
    exact h.pos
  · rw [length_tally]
    exact cast_le_of_le_lengthLimit h.partitions_le

/-- No share is more than one. -/
theorem within_portion (hne : indexes ≠ []) {c : Int} (h0 : 0 ≤ c) (hc : c ≤ indexes.length) :
    Within 0 ((ofIndexes n indexes).portion c) := by
  have htotal : (ofIndexes n indexes).totalKeys = indexes.length := rfl
  have hpos : (0 : Int) < indexes.length := by exact_mod_cast List.length_pos_iff.2 hne
  rw [portion, htotal, if_neg hpos.ne']
  refine within_quotient h0 hpos (by decide) (by decide) ?_
  rw [zpow_zero, div_le_one (by exact_mod_cast hpos)]
  exact_mod_cast hc

/-- Every load is finite. -/
theorem isFinite_loadRatio (h : Addressable n indexes) (hne : indexes ≠ []) {c : Int} (h0 : 0 ≤ c)
    (hc : c ≤ indexes.length) : ((ofIndexes n indexes).loadRatio c).isFinite := by
  rw [loadRatio]
  split_ifs
  · exact (within_zero 0).isFinite
  have hage := le_nearest_average h hne
  have hpos : 0 < nearest (indexes.length / n) := lt_of_lt_of_le (by positivity) hage
  have hc0 : (0 : Rat) ≤ c := by exact_mod_cast h0
  have hcle : (c : Rat) ≤ 2 ^ (63 : Int) :=
    le_trans (by exact_mod_cast hc) (cast_le_of_le_lengthLimit h.keys_le)
  obtain ⟨hnonneg, hle⟩ := nearest_bounds (by decide) hc0 hcle
  have hint : rational? (ofInt c) = some (nearest c) := by
    refine rational?_ofInt (k := 63 + 1) (by decide) ?_
    rw [abs_of_nonneg hc0]
    exact nearest_lt_two_zpow (by decide) hcle
  have hload : nearest c / nearest (indexes.length / n) ≤ 2 ^ (126 : Int) := by
    rw [div_le_iff₀ hpos]
    calc nearest c ≤ 2 ^ (126 + -63 : Int) := hle
      _ = 2 ^ (126 : Int) * 2 ^ (-63 : Int) := zpow_add₀ two_ne_zero _ _
      _ ≤ 2 ^ (126 : Int) * nearest (indexes.length / n) :=
          mul_le_mul_of_nonneg_left hage (by positivity)
  refine isFinite_of_rational?
    (rational?_div hint (rational?_average h) hpos.ne' (k := 126 + 1) (by decide) ?_)
  rw [abs_of_nonneg (div_nonneg hnonneg hpos.le)]
  exact nearest_lt_two_zpow (by decide) hload

/-! ### What is told about partitions -/

theorem count_bounds {c : Int} (hc : c ∈ (ofIndexes n indexes).counts) :
    0 ≤ c ∧ c ≤ indexes.length := by
  obtain ⟨m, hm, rfl⟩ := List.mem_map.1 hc
  have hle := le_of_mem_tally hm
  exact ⟨Int.natCast_nonneg m, Int.ofNat_le.2 hle⟩

/-- A count of the table is no too large a multiple of all keys. -/
theorem checkPortion_eq_ok {c : Int} (hc : c ∈ (ofIndexes n indexes).counts) (hne : indexes ≠ []) :
    (ofIndexes n indexes).checkPortion c = .ok () := by
  obtain ⟨h0, hle⟩ := count_bounds hc
  have htotal : (ofIndexes n indexes).totalKeys = indexes.length := rfl
  have hpos : 0 < indexes.length := List.length_pos_iff.2 hne
  have hover : 1 < overflowFrom := by decide +kernel
  have hlt : c.natAbs < overflowFrom * (indexes.length : Int).natAbs := by
    rw [Int.natAbs_natCast]
    calc c.natAbs ≤ indexes.length := by omega
      _ = 1 * indexes.length := (Nat.one_mul _).symm
      _ < overflowFrom * indexes.length := Nat.mul_lt_mul_of_pos_right hover hpos
  rw [checkPortion, htotal, quotient?, if_pos hlt]
  simp

theorem isWord_maxPartition (h : Addressable n indexes) :
    isWord (ofIndexes n indexes).maxPartition = true := by
  have hpeak := (isPeak_peak (tally_ne_nil h.pos indexes)).getElem?_eq
  obtain ⟨hlt, _⟩ := List.getElem?_eq_some_iff.1 hpeak
  rw [length_tally] at hlt
  have hlt' : (peak (tally n indexes)).2 < 2 ^ 63 := lt_of_lt_of_le hlt h.partitions_le
  change isWord ((peak (tally n indexes)).2 : Int) = true
  simp only [isWord, Bool.and_eq_true, decide_eq_true_eq]
  omega

theorem countAt?_maxPartition (hn : 0 < n) (indexes : List Int) :
    (ofIndexes n indexes).countAt? (ofIndexes n indexes).maxPartition =
      some (ofIndexes n indexes).maxCount := by
  have hindex : (ofIndexes n indexes).maxPartition = (peak (tally n indexes)).2 := rfl
  rw [countAt?, hindex, if_neg (by omega), if_neg (by omega), Int.toNat_natCast]
  change ((tally n indexes).map Int.ofNat)[(peak (tally n indexes)).2]? = _
  rw [List.getElem?_map, (isPeak_peak (tally_ne_nil hn indexes)).getElem?_eq]
  rfl

/-- The greatest share is told, and it is finite. -/
theorem exists_maxShare (h : Addressable n indexes) (hne : indexes ≠ []) :
    ∃ x, (ofIndexes n indexes).maxShare = .ok x ∧ x.isFinite := by
  have htotal : (ofIndexes n indexes).totalKeys ≠ 0 := by
    have hpos := List.length_pos_iff.2 hne
    change (indexes.length : Int) ≠ 0
    omega
  have hcount := countAt?_maxPartition h.pos indexes
  have hmem : (ofIndexes n indexes).maxCount ∈ (ofIndexes n indexes).counts := by
    rw [countAt?] at hcount
    split_ifs at hcount
    all_goals exact List.mem_of_getElem? hcount
  obtain ⟨h0, hle⟩ := count_bounds hmem
  refine ⟨_, ?_, (within_portion (n := n) hne h0 hle).isFinite⟩
  rw [maxShare, share, if_neg htotal, isWord_maxPartition h, hcount]
  simp only [Bool.not_true, Bool.false_eq_true, if_false, checkPortion_eq_ok hmem hne]
  rfl

/-- An entry of the table is told with finite figures. -/
theorem isFinite_describe (h : Addressable n indexes) (hne : indexes ≠ []) {entry : Int × Nat}
    (hmem : entry ∈ (ofIndexes n indexes).counts.zipIdx) :
    ((ofIndexes n indexes).describe entry).share.isFinite ∧
      ((ofIndexes n indexes).describe entry).loadRatio.isFinite := by
  have hget := List.mem_zipIdx_iff_getElem?.1 hmem
  obtain ⟨h0, hle⟩ := count_bounds (List.mem_of_getElem? hget)
  exact ⟨(within_portion hne h0 hle).isFinite, isFinite_loadRatio h hne h0 hle⟩

end

end Distribution

end Keyspace
