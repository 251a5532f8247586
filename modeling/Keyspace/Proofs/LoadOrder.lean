import Keyspace.Proofs.Batch
import Keyspace.Proofs.Binary64.Products
import Keyspace.Proofs.Figures

/-!
Hot partitions are the first in the order of load.

In the order of load each partition comes before the next one (`HotPartition.Before`): it has more
keys, or as many and the lower index. A count over a threshold has all greater counts over it as
well, so the hot partitions are those that the order begins with (`hotAmong_eq_takeWhile`). A
greater threshold ends them earlier, and whatever the threshold, the first of them is the peak that
the summary tells. If the threshold is the exact average times a factor, the hot counts alone would
add up to too much if there were as many of them as partitions divided by the factor
(`countP_mul_lt_sum`).

    counts       3   0   5   3            average 2.75
    by load      2: 5    0: 3    3: 3    1: 0
    factor 1     └──────────────────┘
    factor 1.5   └──┘
-/

namespace Keyspace.Distribution

open Binary64 (exceeds)

/-! ### The order of load -/

/-- One partition comes before another in the order of load. -/
def HotPartition.Before (p q : HotPartition) : Prop :=
  q.count < p.count ∨ p.count = q.count ∧ p.index < q.index

theorem HotPartition.precedes_iff {p q : HotPartition} :
    p.precedes q ↔ q.count < p.count ∨ p.count = q.count ∧ p.index ≤ q.index := by
  simp [HotPartition.precedes]

theorem HotPartition.precedes_trans (p q r : HotPartition) (hpq : p.precedes q)
    (hqr : q.precedes r) : p.precedes r := by
  rw [precedes_iff] at hpq hqr ⊢
  omega

theorem HotPartition.precedes_total (p q : HotPartition) : p.precedes q || q.precedes p := by
  rw [Bool.or_eq_true, precedes_iff, precedes_iff]
  omega

theorem HotPartition.before_of_precedes {p q : HotPartition} (h : p.precedes q)
    (hne : p.index ≠ q.index) : p.Before q := by
  rw [precedes_iff] at h
  unfold Before
  omega

instance : Std.Irrefl HotPartition.Before where
  irrefl p h := by
    unfold HotPartition.Before at h
    omega

instance : Std.Antisymm HotPartition.Before where
  antisymm p q hpq hqp := by
    unfold HotPartition.Before at hpq hqp
    omega

/-- Counts that are greater than one over the bound are over it as well. -/
def Upward (isOver : Int → Bool) : Prop := ∀ c c', c ≤ c' → isOver c → isOver c'

section

variable (d : Distribution) (isOver : Int → Bool)

/-- The partitions with a count over some bound, in the order of load. -/
def hotAmong : List HotPartition :=
  ((d.counts.zipIdx.filter fun entry => isOver entry.1).map d.describe).mergeSort
    HotPartition.precedes

/-- All partitions in the order of load. -/
def byLoad : List HotPartition := d.hotAmong fun _ => true

theorem hotBy_eq_hotAmong (f : Float) :
    d.hotBy f = d.hotAmong fun c => exceeds c (d.average * f) := rfl

variable {d isOver}

theorem mem_hotAmong {p : HotPartition} :
    p ∈ d.hotAmong isOver ↔ ∃ i c, d.counts[i]? = some c ∧ isOver c ∧ p = d.describe (c, i) := by
  simp only [hotAmong, List.mem_mergeSort, List.mem_map, List.mem_filter,
    List.mem_zipIdx_iff_getElem?]
  constructor
  · rintro ⟨⟨c, i⟩, ⟨hget, hover⟩, rfl⟩
    exact ⟨i, c, hget, hover, rfl⟩
  · rintro ⟨i, c, hget, hover, rfl⟩
    exact ⟨(c, i), ⟨hget, hover⟩, rfl⟩

theorem describe_mem_hotAmong {i : Nat} {c : Int} (hget : d.counts[i]? = some c)
    (hover : isOver c) : d.describe (c, i) ∈ d.hotAmong isOver :=
  mem_hotAmong.2 ⟨i, c, hget, hover, rfl⟩

theorem pairwise_index_zipIdx (counts : List Int) :
    counts.zipIdx.Pairwise fun a b => a.2 ≠ b.2 := by
  have h : (counts.zipIdx.map Prod.snd).Nodup := by
    rw [List.zipIdx_map_snd]
    exact List.nodup_range'
  exact List.pairwise_map.1 h

/-- Each comes before all that follow it. -/
theorem pairwise_hotAmong : (d.hotAmong isOver).Pairwise HotPartition.Before := by
  have hsorted : (d.hotAmong isOver).Pairwise fun p q => p.precedes q = true :=
    List.pairwise_mergeSort HotPartition.precedes_trans HotPartition.precedes_total _
  have hindex : (d.hotAmong isOver).Pairwise fun p q => p.index ≠ q.index := by
    rw [hotAmong, (List.mergeSort_perm _ _).pairwise_iff Ne.symm, List.pairwise_map]
    exact (pairwise_index_zipIdx d.counts).filter _
  exact (hsorted.and hindex).imp fun ⟨hle, hne⟩ => HotPartition.before_of_precedes hle hne

/-- If what passes a test is passed by all before it, the test is passed by a first part. -/
theorem filter_eq_takeWhile {α : Type} {p : α → Bool} {l : List α}
    (h : l.Pairwise fun a b => p b → p a) : l.filter p = l.takeWhile p := by
  induction l with
  | nil => rfl
  | cons a l ih =>
    obtain ⟨hfirst, hrest⟩ := List.pairwise_cons.1 h
    by_cases ha : p a
    · rw [List.filter_cons_of_pos ha, List.takeWhile_cons_of_pos ha, ih hrest]
    · have hnone : l.filter p = [] := by
        rw [List.filter_eq_nil_iff]
        intro b hb hpb
        exact ha (hfirst b hb hpb)
      rw [List.filter_cons_of_neg ha, List.takeWhile_cons_of_neg ha, hnone]

/-- The order of load begins with the partitions over a bound. -/
theorem hotAmong_eq_takeWhile (hup : Upward isOver) :
    d.hotAmong isOver = d.byLoad.takeWhile fun p => isOver p.count := by
  have hup' : d.byLoad.Pairwise fun p q => isOver q.count → isOver p.count := by
    refine pairwise_hotAmong.imp ?_
    rintro p q (hlt | ⟨heq, _⟩)
    · exact hup _ _ hlt.le
    · rw [heq]
      exact id
  rw [← filter_eq_takeWhile hup']
  refine pairwise_hotAmong.eq_of_mem_iff (pairwise_hotAmong.filter _) ?_
  intro p
  rw [List.mem_filter, byLoad, mem_hotAmong, mem_hotAmong]
  constructor
  · rintro ⟨i, c, hget, hover, rfl⟩
    exact ⟨⟨i, c, hget, rfl, rfl⟩, hover⟩
  · rintro ⟨⟨i, c, hget, _, rfl⟩, hover⟩
    exact ⟨i, c, hget, hover, rfl⟩

/-- Fewer counts over a bound leave a first part of the partitions. -/
theorem hotAmong_initial {isOver' : Int → Bool} (hup : Upward isOver) (hup' : Upward isOver')
    (himp : ∀ c, isOver' c → isOver c) :
    d.hotAmong isOver' <+: d.hotAmong isOver := by
  have hboth : (fun p : HotPartition => isOver' p.count) =
      fun p => decide (isOver' p.count ∧ isOver p.count) := by
    funext p
    by_cases h : isOver' p.count
    · simp [h, himp _ h]
    · simp [h]
  rw [hotAmong_eq_takeWhile hup, hotAmong_eq_takeWhile hup', hboth, ← List.takeWhile_takeWhile]
  exact List.takeWhile_prefix _

end

/-! ### What a list of hot partitions is -/

/-- The partitions with a count over a bound: the first in the order of load, the peak in front. -/
structure FirstByLoad (d : Distribution) (isOver : Int → Bool) (hot : List HotPartition) :
    Prop where
  mem_iff : ∀ p, p ∈ hot ↔ ∃ i c, d.counts[i]? = some c ∧ isOver c ∧ p = d.describe (c, i)
  ordered : hot.Pairwise HotPartition.Before
  initial : hot <+: d.byLoad
  upward : ∀ p ∈ hot, ∀ i c, d.counts[i]? = some c → p.count ≤ c → d.describe (c, i) ∈ hot
  head_eq : ∀ p ∈ hot.head?, p.count = d.maxCount ∧ (p.index : Int) = d.maxPartition

/-- The first of the partitions over a bound is the peak. -/
theorem head_hotAmong {d : Distribution} {isOver : Int → Bool} {n : Nat} {indexes : List Int}
    (hd : CountsExactly n indexes d) (hup : Upward isOver) :
    ∀ p ∈ (d.hotAmong isOver).head?, p.count = d.maxCount ∧ (p.index : Int) = d.maxPartition := by
  intro p hp
  obtain ⟨rest, hlist⟩ := List.head?_eq_some_iff.1 hp
  have hmem : p ∈ d.hotAmong isOver := by
    rw [hlist]
    exact List.mem_cons_self
  obtain ⟨i, c, hget, hover, rfl⟩ := mem_hotAmong.1 hmem
  obtain ⟨m, hm, hpeak, hbefore⟩ := hd.maxPartition_eq
  have hle : c ≤ d.maxCount := hd.le_maxCount c (List.mem_of_getElem? hget)
  have hpeakmem : d.describe (d.maxCount, m) ∈ d.hotAmong isOver :=
    describe_mem_hotAmong hpeak (hup _ _ hle hover)
  have hsorted : (d.hotAmong isOver).Pairwise HotPartition.Before := pairwise_hotAmong
  rw [hlist] at hpeakmem hsorted
  rw [hm]
  rcases List.mem_cons.1 hpeakmem with heq | hrest
  · exact ⟨(congrArg HotPartition.count heq).symm,
      congrArg Int.ofNat (congrArg HotPartition.index heq).symm⟩
  · rcases (List.pairwise_cons.1 hsorted).1 _ hrest with hlt | ⟨heq, hlt⟩
    · exact absurd hle (not_le.2 hlt)
    · have hless := hbefore i hlt c hget
      exact absurd heq hless.ne

theorem firstByLoad_hotAmong {d : Distribution} {isOver : Int → Bool} {n : Nat}
    {indexes : List Int} (hd : CountsExactly n indexes d) (hup : Upward isOver) :
    FirstByLoad d isOver (d.hotAmong isOver) where
  mem_iff _ := mem_hotAmong
  ordered := pairwise_hotAmong
  initial := by
    rw [hotAmong_eq_takeWhile hup]
    exact List.takeWhile_prefix _
  upward := by
    intro p hp i c hget hle
    obtain ⟨_, _, _, hover, rfl⟩ := mem_hotAmong.1 hp
    exact describe_mem_hotAmong hget (hup _ _ hle hover)
  head_eq := head_hotAmong hd hup

/-! ### Exact thresholds -/

/-- Whether a count is over the exact average times a factor. -/
def isOverExactly (d : Distribution) (f : Rat) (c : Int) : Bool :=
  (d.totalKeys : Rat) / d.partitionCount * f < c

/-- The partitions over the exact average times a factor, in the order of load. -/
def hotExactly (d : Distribution) (f : Rat) : List HotPartition := d.hotAmong (d.isOverExactly f)

/-- Counts over a threshold, if there are any, add up to more than that many times the threshold. -/
theorem countP_mul_lt_sum {t : Rat} {counts : List Int} (h0 : ∀ c ∈ counts, 0 ≤ c) :
    0 ≤ counts.sum ∧ (counts.countP (fun c : Int => t < c) = 0 ∨
      (counts.countP (fun c : Int => t < c) : Rat) * t < counts.sum) := by
  induction counts with
  | nil => exact ⟨le_rfl, Or.inl rfl⟩
  | cons c counts ih =>
    obtain ⟨hsum, hcounts⟩ := ih fun e he => h0 e (by simp [he])
    have hc : 0 ≤ c := h0 c (by simp)
    have hsum' : (0 : Rat) ≤ counts.sum := by exact_mod_cast hsum
    have hc' : (0 : Rat) ≤ c := by exact_mod_cast hc
    rw [List.sum_cons, List.countP_cons, Int.cast_add]
    refine ⟨add_nonneg hc hsum, ?_⟩
    by_cases hlt : t < c
    · refine Or.inr ?_
      rw [if_pos (decide_eq_true hlt), Nat.cast_succ, add_mul, one_mul]
      rcases hcounts with hnone | hsome
      · rw [hnone, Nat.cast_zero, zero_mul]
        linarith
      · linarith
    · rw [if_neg (by simpa using hlt), Nat.add_zero]
      rcases hcounts with hnone | hsome
      · exact Or.inl hnone
      · exact Or.inr (by linarith)

theorem length_hotAmong (d : Distribution) (isOver : Int → Bool) :
    (d.hotAmong isOver).length = d.counts.countP isOver := by
  have hfst : d.counts.zipIdx.map Prod.fst = d.counts := List.zipIdx_map_fst 0 _
  rw [hotAmong, List.length_mergeSort, List.length_map, ← List.countP_eq_length_filter]
  conv_rhs => rw [← hfst, List.countP_map]
  rfl

/-- There are fewer hot partitions than all partitions divided by the factor. -/
theorem length_hotExactly_mul_lt {n : Nat} (hn : 0 < n) (indexes : List Int) (f : Rat) :
    ((ofIndexes n indexes).hotExactly f).length * f < n := by
  have hn' : (0 : Rat) < n := by exact_mod_cast hn
  have hsum : ((ofIndexes n indexes).counts.sum : Rat) ≤ indexes.length := by
    have h := sum_counts_add_dropped n indexes
    exact_mod_cast (by omega : (ofIndexes n indexes).counts.sum ≤ indexes.length)
  have h0 (c : Int) (hc : c ∈ (ofIndexes n indexes).counts) : 0 ≤ c := (count_bounds hc).1
  obtain ⟨k, hk⟩ : ∃ k, k = (ofIndexes n indexes).counts.countP
    fun c : Int => (indexes.length : Rat) / n * f < c := ⟨_, rfl⟩
  have hlength : ((ofIndexes n indexes).hotExactly f).length = k := by
    rw [hk]
    exact length_hotAmong _ _
  obtain ⟨_, hcounts⟩ := countP_mul_lt_sum (t := (indexes.length : Rat) / n * f) h0
  rw [← hk] at hcounts
  rw [hlength]
  rcases hcounts with hnone | hsome
  · rw [hnone, Nat.cast_zero, zero_mul]
    exact hn'
  rcases Nat.eq_zero_or_pos indexes.length with hempty | hpos
  · rw [hempty, Nat.cast_zero] at hsum
    rw [hempty, Nat.cast_zero, zero_div, zero_mul, mul_zero] at hsome
    linarith
  · have haverage : (0 : Rat) < indexes.length / n := div_pos (by exact_mod_cast hpos) hn'
    refine lt_of_mul_lt_mul_right ?_ haverage.le
    calc (k : Rat) * f * (indexes.length / n) = k * (indexes.length / n * f) := by ring
      _ < (ofIndexes n indexes).counts.sum := hsome
      _ ≤ indexes.length := hsum
      _ = n * (indexes.length / n) := (mul_div_cancel₀ _ hn'.ne').symm

/-! ### What is told -/

theorem forM_eq_ok {α : Type} {check : α → Except Error Unit} {l : List α}
    (h : ∀ a ∈ l, check a = .ok ()) : l.forM check = .ok () := by
  induction l with
  | nil => rfl
  | cons a l ih =>
    change (check a >>= fun _ => l.forM check) = .ok ()
    rw [h a (by simp), ih fun b hb => h b (by simp [hb])]
    rfl

/-- The hot partitions of a summary are told, unless a count is too large for a double. -/
theorem hotPartitions_eq_ok {n : Nat} {indexes : List Int}
    (hlen : indexes.length < Binary64.overflowFrom) {factor : Value} {f : Float}
    (hf : factor? factor = .ok f) :
    (ofIndexes n indexes).hotPartitions factor = .ok ((ofIndexes n indexes).hotBy f) := by
  have hcheck : ((ofIndexes n indexes).overThreshold ((ofIndexes n indexes).average * f)).forM
      (fun entry => do
        (ofIndexes n indexes).checkPortion entry.1
        (ofIndexes n indexes).checkLoad entry.1) = .ok () := by
    refine forM_eq_ok ?_
    rintro ⟨c, i⟩ hmem
    have hget := List.mem_zipIdx_iff_getElem?.1 (List.mem_of_mem_filter hmem)
    have hc := List.mem_of_getElem? hget
    obtain ⟨h0, hle⟩ := count_bounds hc
    have hportion : (ofIndexes n indexes).checkPortion c = .ok () := by
      rcases eq_or_ne indexes [] with rfl | hne
      · rfl
      · exact checkPortion_eq_ok hc hne
    have hload : (ofIndexes n indexes).checkLoad c = .ok () := by
      have hlt : c.natAbs < Binary64.overflowFrom := by omega
      rw [checkLoad, Binary64.ofInt?, if_pos hlt]
      simp
    rw [hportion, hload]
    rfl
  exact bind_eq_ok_iff.2 ⟨f, hf, bind_eq_ok_iff.2 ⟨(), hcheck, rfl⟩⟩

theorem hotBy_of_hotPartitions {d : Distribution} {factor : Value} {hot : List HotPartition}
    (h : d.hotPartitions factor = .ok hot) : ∃ f, factor? factor = .ok f ∧ hot = d.hotBy f := by
  obtain ⟨f, hf, h⟩ := bind_eq_ok_iff.1 h
  obtain ⟨_, _, h⟩ := bind_eq_ok_iff.1 h
  exact ⟨f, hf, (Except.ok.inj h).symm⟩

/-! ### Thresholds -/

theorem average_nonneg {n : Nat} (hn : 0 < n) (indexes : List Int) :
    0.0 ≤ (ofIndexes n indexes).average := by
  have hn' : (n : Int) ≠ 0 := by omega
  refine Binary64.nonneg_of_roundsTo ?_ (Binary64.roundsTo_quotient hn')
  rw [Int.cast_natCast, Int.cast_natCast]
  positivity

theorem upward_exceeds (x : Float) : Upward (exceeds · x) :=
  fun _ _ hle h => Binary64.exceeds_mono hle h

theorem upward_isOverExactly (d : Distribution) (f : Rat) : Upward (d.isOverExactly f) := by
  intro c c' hle h
  have hlt : (d.totalKeys : Rat) / d.partitionCount * f < c := of_decide_eq_true h
  have hle' : (c : Rat) ≤ c' := by exact_mod_cast hle
  exact decide_eq_true (hlt.trans_le hle')

theorem isOverExactly_of_le {n : Nat} {indexes : List Int} {f₁ f₂ : Rat} (hf : f₁ ≤ f₂) {c : Int}
    (h : (ofIndexes n indexes).isOverExactly f₂ c) : (ofIndexes n indexes).isOverExactly f₁ c := by
  have hlt : (indexes.length : Rat) / n * f₂ < c := of_decide_eq_true h
  have hle : (indexes.length : Rat) / n * f₁ ≤ indexes.length / n * f₂ :=
    mul_le_mul_of_nonneg_left hf (by positivity)
  exact decide_eq_true (hle.trans_lt hlt)

/-! ### Hot partitions -/

/-- What the hot partitions of a summary are for each factor, with the threshold that doubles come
    to and with the exact one. They are told if no count is too large for a double, and nothing else
    is told in their place. -/
structure HotByLoad (n : Nat) (indexes : List Int) (d : Distribution) : Prop where
  returned : ∀ factor hot, d.hotPartitions factor = .ok hot →
    ∃ f, factor? factor = .ok f ∧ hot = d.hotBy f
  returns : ∀ factor f, factor? factor = .ok f → indexes.length < Binary64.overflowFrom →
    d.hotPartitions factor = .ok (d.hotBy f)
  first : ∀ f, FirstByLoad d (fun c => exceeds c (d.average * f)) (d.hotBy f)
  shrinks : ∀ f₁ f₂, f₁ ≤ f₂ → (d.average * f₁).isNaN = false → d.hotBy f₂ <+: d.hotBy f₁
  exactly_first : ∀ f, FirstByLoad d (d.isOverExactly f) (d.hotExactly f)
  exactly_shrinks : ∀ f₁ f₂, f₁ ≤ f₂ → d.hotExactly f₂ <+: d.hotExactly f₁
  length_mul_lt : ∀ f, 0 < f → ((d.hotExactly f).length : Rat) * f < n
  length_lt : ∀ f, 1 ≤ f → (d.hotExactly f).length < n

theorem hotByLoad_ofIndexes {n : Nat} (hn : 0 < n) (indexes : List Int) :
    HotByLoad n indexes (ofIndexes n indexes) := by
  have hd := countsExactly_ofIndexes hn indexes
  constructor
  · exact fun _ _ h => hotBy_of_hotPartitions h
  · exact fun _ _ hf hlen => hotPartitions_eq_ok hlen hf
  · intro f
    rw [hotBy_eq_hotAmong]
    exact firstByLoad_hotAmong hd (upward_exceeds _)
  · intro f₁ f₂ hf hnumber
    rw [hotBy_eq_hotAmong, hotBy_eq_hotAmong]
    refine hotAmong_initial (upward_exceeds _) (upward_exceeds _) ?_
    intro c h
    exact Binary64.exceeds_mul_mono (average_nonneg hn indexes) hf hnumber h
  · intro f
    exact firstByLoad_hotAmong hd (upward_isOverExactly _ f)
  · intro f₁ f₂ hf
    refine hotAmong_initial (upward_isOverExactly _ f₁) (upward_isOverExactly _ f₂) ?_
    intro c h
    exact isOverExactly_of_le hf h
  · exact fun f _ => length_hotExactly_mul_lt hn indexes f
  · intro f hf
    have hlt := length_hotExactly_mul_lt hn indexes f
    have hle : (((ofIndexes n indexes).hotExactly f).length : Rat) ≤
        ((ofIndexes n indexes).hotExactly f).length * f :=
      le_mul_of_one_le_right (Nat.cast_nonneg _) hf
    exact_mod_cast hle.trans_lt hlt

/-- For every count that is accepted the hot partitions of a summary are the first in the order of
    load, the peak in front, and a greater factor leaves a first part of them. Over an exact
    threshold there are fewer than all partitions divided by the factor, whatever was dropped. -/
theorem summarize_hot_first {count : Value} {n : Nat} (hc : PartitionCount.normalize count = .ok n)
    (indexes : List Int) :
    ∃ d, summarize count indexes = .ok d ∧ HotByLoad n indexes d :=
  ⟨_, summarize_eq_ok hc indexes,
    hotByLoad_ofIndexes (PartitionCount.normalize_eq_ok_iff.1 hc).2 indexes⟩

/-- Four partitions that are asked for as 4.5, with an index outside the table: at half the average
    three of them are hot, the one with five keys first; a negative factor leaves all in the list.
    -/
theorem summarize_hot_first_dropped :
    PartitionCount.normalize (.real 4.5) = .ok 4 ∧
      ∃ d, summarize (.real 4.5) [3, 0, 2, 0, 2, 9, 2, 0, 2, 3, 2, 3] = .ok d ∧
        HotByLoad 4 [3, 0, 2, 0, 2, 9, 2, 0, 2, 3, 2, 3] d ∧
        d.hotPartitions (.real 0.5) = .ok (d.hotBy 0.5) ∧
        d.describe (3, 0) ∈ d.hotBy 0.5 ∧ d.describe (3, 3) ∈ d.hotBy 0.5 ∧
        (∀ p ∈ (d.hotBy 0.5).head?, p.count = 5 ∧ (p.index : Int) = 2) ∧
        d.hotBy 0.5 <+: d.hotBy (-0.5) ∧ d.hotExactly (3 / 2) <+: d.hotExactly (-1 / 2) ∧
        ((d.hotExactly (1 / 2)).length : Rat) * (1 / 2) < 4 ∧ (d.hotExactly 1).length < 4 := by
  have hc : PartitionCount.normalize (.real 4.5) = .ok 4 :=
    PartitionCount.normalize_eq_ok_iff.2 ⟨by decide +kernel, by decide⟩
  have hd := summarize_eq_ok hc [3, 0, 2, 0, 2, 9, 2, 0, 2, 3, 2, 3]
  obtain ⟨d, hd', hhot⟩ := summarize_hot_first hc [3, 0, 2, 0, 2, 9, 2, 0, 2, 3, 2, 3]
  obtain rfl := Except.ok.inj (hd.symm.trans hd')
  have hfirst := hhot.first 0.5
  refine ⟨hc, _, hd, hhot, hhot.returns _ _ rfl (by decide +kernel), ?_, ?_, hfirst.head_eq, ?_, ?_,
    hhot.length_mul_lt _ (by norm_num), hhot.length_lt _ le_rfl⟩
  · exact (hfirst.mem_iff _).2 ⟨0, 3, by decide, by decide +kernel, rfl⟩
  · exact (hfirst.mem_iff _).2 ⟨3, 3, by decide, by decide +kernel, rfl⟩
  · exact hhot.shrinks _ _ (by decide +kernel) (by decide +kernel)
  · exact hhot.exactly_shrinks _ _ (by norm_num)

end Keyspace.Distribution
