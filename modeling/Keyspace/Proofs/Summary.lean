import Mathlib.Data.List.Perm.Basic
import Keyspace.Proofs.Tally

/-!
The summary of a list of indexes counts exactly.

Its counts are the times that the indexes of the partitions come, whatever else is in the list, so
they do not depend on the order of the list and are added up when lists are joined. The peak is
found by one scan that moves on only to a greater entry. After each entry it is the peak of what was
scanned (`IsPeak.concat`), so at the end it is the first of the greatest entries (`isPeak_peak`).

    counts    2  5  1  5  7  7
    peak      2  5  5  5  7  7
    at        0  1  1  1  4  4
-/

namespace Keyspace.Distribution

/-! ### The peak -/

/-- An entry of a table and its place: no entry is greater, and those before it are all less. -/
structure IsPeak (counts : List Nat) (best : Nat × Nat) : Prop where
  getElem?_eq : counts[best.2]? = some best.1
  le : ∀ c ∈ counts, c ≤ best.1
  before : ∀ i c, i < best.2 → counts[i]? = some c → c < best.1

theorem isPeak_singleton (c : Nat) : IsPeak [c] (c, 0) := by
  refine ⟨rfl, ?_, ?_⟩
  · intro d hd
    rw [List.mem_singleton.1 hd]
  · intro i d hi
    exact absurd hi (Nat.not_lt_zero i)

/-- One entry more: it is the peak if it is greater than the peak so far. -/
theorem IsPeak.concat {seen : List Nat} {best : Nat × Nat} (h : IsPeak seen best) (c : Nat) :
    IsPeak (seen ++ [c]) (if best.1 < c then (c, seen.length) else best) := by
  obtain ⟨hlt, _⟩ := List.getElem?_eq_some_iff.1 h.getElem?_eq
  split
  · next hc =>
    refine ⟨by simp, ?_, ?_⟩
    · intro d hd
      rcases List.mem_append.1 hd with hd | hd
      · exact (h.le d hd).trans hc.le
      · rw [List.mem_singleton.1 hd]
    · intro i d hi hd
      rw [List.getElem?_append_left hi] at hd
      exact (h.le d (List.mem_of_getElem? hd)).trans_lt hc
  · next hc =>
    refine ⟨?_, ?_, ?_⟩
    · rw [List.getElem?_append_left hlt]
      exact h.getElem?_eq
    · intro d hd
      rcases List.mem_append.1 hd with hd | hd
      · exact h.le d hd
      · rw [List.mem_singleton.1 hd]
        exact Nat.not_lt.1 hc
    · intro i d hi hd
      rw [List.getElem?_append_left (hi.trans hlt)] at hd
      exact h.before i d hi hd

/-- The scan over the entries behind those that were seen. -/
theorem IsPeak.foldl {seen : List Nat} {best : Nat × Nat} (h : IsPeak seen best)
    (rest : List Nat) :
    IsPeak (seen ++ rest) ((rest.zipIdx seen.length).foldl
      (fun best entry => if best.1 < entry.1 then entry else best) best) := by
  induction rest generalizing seen best with
  | nil => simpa using h
  | cons c rest ih =>
    have hrest := ih (h.concat c)
    rw [List.length_append, List.length_singleton, List.append_assoc,
      List.singleton_append] at hrest
    rw [List.zipIdx_cons, List.foldl_cons]
    exact hrest

theorem isPeak_peak {counts : List Nat} (hne : counts ≠ []) : IsPeak counts (peak counts) := by
  cases counts with
  | nil => exact absurd rfl hne
  | cons c rest => exact (isPeak_singleton c).foldl rest

/-! ### The order of indexes, and lists joined -/

/-- The summary of indexes over `n` partitions tells how often each partition's index comes, how
    many indexes there are, and the first partition with the greatest count. -/
structure CountsExactly (n : Nat) (indexes : List Int) (d : Distribution) : Prop where
  length_counts : d.counts.length = n
  counts_eq : ∀ i < n, d.counts[i]? = some (indexes.count (i : Int) : Int)
  sum_counts : d.counts.sum = (indexes.countP fun i : Int => 0 ≤ i ∧ i < n : Nat)
  totalKeys_eq : d.totalKeys = indexes.length
  le_maxCount : ∀ c ∈ d.counts, c ≤ d.maxCount
  maxPartition_eq : ∃ m : Nat, d.maxPartition = m ∧ d.counts[m]? = some d.maxCount ∧
    ∀ i < m, ∀ c, d.counts[i]? = some c → c < d.maxCount
  maxPartition_zero : (∀ c ∈ d.counts, c = 0) → d.maxPartition = 0

theorem sum_counts_eq (n : Nat) (indexes : List Int) :
    (ofIndexes n indexes).counts.sum = (indexes.countP fun i : Int => 0 ≤ i ∧ i < n : Nat) := by
  change ((tally n indexes).map Int.ofNat).sum = _
  rw [sum_map_ofNat, tally_eq_map, sum_count_range']
  refine congrArg Int.ofNat (List.countP_congr fun i _ => ?_)
  simp

theorem countsExactly_ofIndexes {n : Nat} (hn : 0 < n) (indexes : List Int) :
    CountsExactly n indexes (ofIndexes n indexes) := by
  have hne := tally_ne_nil hn indexes
  have hpeak := isPeak_peak hne
  have hcounts : (ofIndexes n indexes).counts = (tally n indexes).map Int.ofNat := rfl
  have hmax : (ofIndexes n indexes).maxCount = (peak (tally n indexes)).1 := rfl
  have hat : (ofIndexes n indexes).maxPartition = (peak (tally n indexes)).2 := rfl
  constructor
  · rw [hcounts, List.length_map, length_tally]
  · intro i hi
    exact getElem?_counts hi indexes
  · exact sum_counts_eq n indexes
  · rfl
  · intro c hc
    rw [hcounts] at hc
    obtain ⟨k, hk, rfl⟩ := List.mem_map.1 hc
    rw [hmax]
    exact Int.ofNat_le.2 (hpeak.le k hk)
  · refine ⟨(peak (tally n indexes)).2, hat, ?_, ?_⟩
    · rw [hcounts, hmax, List.getElem?_map, hpeak.getElem?_eq]
      rfl
    · intro i hi c hc
      rw [hcounts, List.getElem?_map, Option.map_eq_some_iff] at hc
      obtain ⟨k, hk, rfl⟩ := hc
      rw [hmax]
      exact Int.ofNat_lt.2 (hpeak.before i k hi hk)
  -- A peak that stands behind another entry is greater than it, so not all entries are zero.
  · intro hzero
    by_contra hm
    have hpos : 0 < (peak (tally n indexes)).2 := by omega
    obtain ⟨c, hc⟩ : ∃ c, (tally n indexes)[0]? = some c :=
      ⟨_, List.getElem?_eq_getElem (List.length_pos_iff.2 hne)⟩
    have hlt := hpeak.before 0 c hpos hc
    have hgreatest := hzero _ (List.mem_map_of_mem (List.mem_of_getElem? hpeak.getElem?_eq))
    change ((peak (tally n indexes)).1 : Int) = 0 at hgreatest
    omega

end Keyspace.Distribution
