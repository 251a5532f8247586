import Keyspace.Proofs.Binary64.Arithmetic

/-!
Quotients, natural numbers and roots.

A quotient and a root are not found to the end: a dividend, or what a root is taken of, is made long
enough for fifty-three bits, and what is left over tells in which half of the last place the number
lies (`marks_quotient`, `exists_marks_root`). Quotients are told also where they are too large
(`roundsTo_div`, `roundsTo_quotient`); of roots it is only told that they are finite.
-/

namespace Keyspace.Binary64

open Float.Model Float.Model.UnpackedFloat

/-! ### Quotients -/

theorem marks_below_half {m : Nat} {x : Rat} :
    Marks (.ofMantissaAndAccuracy m (.inexact .lt)) x ↔ (m : Rat) < x ∧ x < m + 1 / 2 :=
  Iff.rfl

theorem marks_above_half {m : Nat} {x : Rat} :
    Marks (.ofMantissaAndAccuracy m (.inexact .gt)) x ↔ (m : Rat) + 1 / 2 < x ∧ x < m + 1 :=
  Iff.rfl

theorem marks_quotient (m : Nat) {n : Nat} (hn : 0 < n) :
    Marks (.ofMantissaAndAccuracy (m / n) (accuracyOfFraction (m % n) n)) (m / n) := by
  have hn' : (0 : Rat) < n := by exact_mod_cast hn
  have hdiv : (m : Rat) / n = (m / n : Nat) + (m % n : Nat) / n := by
    rw [eq_comm, ← eq_sub_iff_add_eq', eq_sub_iff_add_eq, eq_comm, div_eq_iff hn'.ne', add_mul,
      div_mul_cancel₀ _ hn'.ne']
    exact_mod_cast (Nat.mod_add_div' m n).symm
  have hlt : ((m % n : Nat) : Rat) / n < 1 := by
    rw [div_lt_one hn']
    exact_mod_cast Nat.mod_lt m hn
  rw [hdiv, accuracyOfFraction]
  split_ifs with hzero
  · rw [hzero, Nat.cast_zero, zero_div, add_zero]
    exact marks_exact _
  have hpos : (0 : Rat) < (m % n : Nat) / n :=
    div_pos (by exact_mod_cast Nat.pos_of_ne_zero hzero) hn'
  rcases lt_trichotomy (2 * (m % n)) n with h | h | h
  · have hhalf : ((m % n : Nat) : Rat) / n < 1 / 2 := by
      rw [div_lt_div_iff₀ hn' two_pos]
      exact_mod_cast (by omega : m % n * 2 < 1 * n)
    rw [Nat.compare_eq_lt.2 h, marks_below_half]
    constructor <;> linarith
  · have hhalf : ((m % n : Nat) : Rat) / n = 1 / 2 := by
      rw [div_eq_div_iff hn'.ne' two_ne_zero]
      exact_mod_cast (by omega : m % n * 2 = 1 * n)
    rw [Nat.compare_eq_eq.2 h, hhalf]
    rfl
  · have hhalf : (1 : Rat) / 2 < (m % n : Nat) / n := by
      rw [div_lt_div_iff₀ two_pos hn']
      exact_mod_cast (by omega : 1 * n < m % n * 2)
    rw [Nat.compare_eq_gt.2 h, marks_above_half]
    constructor <;> linarith

theorem targetExponent_def (z : Int) :
    Format.binary64.targetExponent z = max (z - 53) (-1074) := by
  simp only [Format.targetExponent, Format.mantissaBits, Format.minExponent]
  norm_num

/-- A dividend that is made long enough leaves a quotient of fifty-three bits. -/
theorem two_pow_le_shiftLeft_div {m n d : Nat} (hm : 0 < m) (hn : 0 < n)
    (h : n.log2 + 53 ≤ m.log2 + d) : 2 ^ 52 ≤ (m <<< d) / n := by
  rw [Nat.le_div_iff_mul_le hn, Nat.shiftLeft_eq]
  have hlt : n < 2 ^ (n.log2 + 1) := Nat.lt_log2_self
  calc 2 ^ 52 * n ≤ 2 ^ 52 * 2 ^ (n.log2 + 1) := Nat.mul_le_mul_left _ hlt.le
    _ = 2 ^ (n.log2 + 53) := by rw [← Nat.pow_add]; congr 1; omega
    _ ≤ 2 ^ (m.log2 + d) := Nat.pow_le_pow_right (by decide) h
    _ = 2 ^ m.log2 * 2 ^ d := Nat.pow_add _ _ _
    _ ≤ m * 2 ^ d := Nat.mul_le_mul_right _ (Nat.log2_self_le hm.ne')

theorem roundsTo_div_finite (s t : Sign) {m n : Nat} {e f : Int} (hm : 0 < m) (hn : 0 < n) :
    RoundsTo (signed s (m * 2 ^ e) / signed t (n * 2 ^ f))
      (.ofModel (.pack (div Format.binary64 (.finite s m e hm) (.finite t n f hn)))) := by
  obtain ⟨u, hu⟩ : ∃ u, u = min (e - f)
    (Format.binary64.targetExponent (totalExponent m e - totalExponent n f)) := ⟨_, rfl⟩
  have hu' := hu
  rw [targetExponent_def, totalExponent, totalExponent] at hu'
  have hdiv : div Format.binary64 (.finite s m e hm) (.finite t n f hn) =
      roundWithAccuracy Format.binary64 (s / t) ((m <<< (e - f - u).toNat) / n) u
        (accuracyOfFraction ((m <<< (e - f - u).toNat) % n) n) := by
    rw [UnpackedFloat.div, divCore, ← hu]
  have hpos : 0 < (m : Rat) * 2 ^ e / (n * 2 ^ f) := by positivity
  have hvalue : (m : Rat) * 2 ^ e / (n * 2 ^ f) / 2 ^ u = (m <<< (e - f - u).toNat : Nat) / n := by
    rw [Nat.shiftLeft_eq]
    push_cast
    rw [← zpow_natCast, Int.toNat_of_nonneg (by omega), zpow_sub₀ two_ne_zero,
      zpow_sub₀ two_ne_zero]
    field_simp
  rw [hdiv, ← signed_div]
  refine roundsTo_round (s / t) ?_ ?_
  · rw [hvalue]
    exact marks_quotient _ hn
  · by_cases hsub : u ≤ -1074
    · exact Or.inr ⟨hpos, hsub⟩
    · exact Or.inl (two_pow_le_shiftLeft_div hm hn (by omega))

theorem roundsTo_div {x y : Float} {a b : Rat} (hx : rational? x = some a)
    (hy : rational? y = some b) (hb : b ≠ 0) : RoundsTo (a / b) (x / y) := by
  have hdiv : x / y =
    .ofModel (.pack (div Format.binary64 x.toModel.unpack y.toModel.unpack)) := rfl
  rcases unpack_of_rational? hy with ⟨t, ht, rfl⟩ | ⟨t, n, f, hn, ht, _, rfl⟩
  · exact absurd rfl hb
  rcases unpack_of_rational? hx with ⟨s, hs, rfl⟩ | ⟨s, m, e, hm, hs, _, rfl⟩
  · rw [zero_div, hdiv, hs, ht]
    exact roundsTo_zero _
  · rw [hdiv, hs, ht]
    exact roundsTo_div_finite s t hm hn

theorem rational?_div {x y : Float} {a b : Rat} {k : Int} (hx : rational? x = some a)
    (hy : rational? y = some b) (hb : b ≠ 0) (hk : k ≤ 1024) (h : nearest |a / b| < 2 ^ k) :
    rational? (x / y) = some (nearest (a / b)) :=
  (roundsTo_div hx hy hb).rational?_eq hk h

/-- An integer as an unrounded double stands for the integer. -/
theorem unpackInt_of_ne_zero {n : Int} (hn : n ≠ 0) :
    ∃ s, ∃ h : 0 < n.natAbs, unpackInt n = .finite s n.natAbs 0 h ∧
      signed s (n.natAbs * 2 ^ (0 : Int)) = n := by
  have hpos : 0 < n.natAbs := by omega
  have habs : ((n.natAbs : Int) : Rat) = n.natAbs := Int.cast_natCast _
  refine ⟨if n < 0 then .negative else .positive, hpos, dif_pos hpos, ?_⟩
  rw [zpow_zero, mul_one, ← habs]
  split_ifs with hneg
  · rw [signed, ← Int.cast_neg]
    congr 1
    omega
  · rw [signed]
    congr 1
    omega

theorem roundsTo_quotient {a b : Int} (hb : b ≠ 0) : RoundsTo ((a : Rat) / b) (quotient a b) := by
  obtain ⟨t, hb', ht, hbvalue⟩ := unpackInt_of_ne_zero hb
  rcases eq_or_ne a 0 with rfl | ha
  · rw [Int.cast_zero, zero_div, quotient, ht]
    exact roundsTo_zero _
  · obtain ⟨s, ha', hs, havalue⟩ := unpackInt_of_ne_zero ha
    rw [← havalue, ← hbvalue, quotient, hs, ht]
    exact roundsTo_div_finite s t ha' hb'

theorem rational?_quotient {a b k : Int} (hb : b ≠ 0) (hk : k ≤ 1024)
    (h : nearest |(a : Rat) / b| < 2 ^ k) : rational? (quotient a b) = some (nearest (a / b)) :=
  (roundsTo_quotient hb).rational?_eq hk h

/-! ### Natural numbers -/

theorem rational?_one : rational? (Float.ofBits 0x3FF0000000000000) = some 1 := by
  have hunpack : (Float.ofBits 0x3FF0000000000000).toModel.unpack =
    .finite .positive (2 ^ 52) (-52) (by norm_num) := rfl
  rw [rational?_eq_of_unpack hunpack, signed]
  norm_num

/-- Below `2 ^ 53` a natural number is taken as a machine word and multiplied by one. -/
theorem ofNat_of_lt {n : Nat} (h : n < 2 ^ 53) :
    Float.ofNat n = ofInt n * Float.ofBits 0x3FF0000000000000 := by
  have hword : n.toUInt64.toNat = n := by
    rw [UInt64.toNat_ofNat']
    omega
  have hfloat : n.toUInt64.toFloat = ofInt n := by
    change Float.ofModel (.ofInt n.toUInt64.toNat) = ofInt n
    rw [hword]
    rfl
  change Float.ofScientific n false 0 = _
  rw [Float.ofScientific, dif_pos ⟨h, by decide⟩, ← hfloat]
  rfl

/-- From `2 ^ 53` on it is multiplied by one without rounding it before. -/
theorem ofNat_of_ge {n : Nat} (h : 2 ^ 53 ≤ n) :
    Float.ofNat n = .ofModel (.pack (roundWithAccuracy Format.binary64 .positive
      ((n <<< 53) * 10 ^ 0) (-53 + 0) .exact)) := by
  have hn : n ≠ 0 := by
    rintro rfl
    norm_num at h
  change Float.ofScientific n false 0 = _
  rw [Float.ofScientific, dif_neg (by omega)]
  change Float.ofModel (.pack (UnpackedFloat.ofScientific Format.binary64 n 0)) = _
  rw [UnpackedFloat.ofScientific, dif_neg hn, if_neg (by norm_num), if_neg (by norm_num),
    if_pos le_rfl]
  rfl

theorem rational?_ofNat {n : Nat} {k : Int} (hk : k ≤ 1024) (h : nearest (n : Rat) < 2 ^ k) :
    rational? (Float.ofNat n) = some (nearest n) := by
  have hn : (0 : Rat) ≤ n := Nat.cast_nonneg n
  rcases lt_or_ge n (2 ^ 53) with hlt | hge
  · have hint : rational? (ofInt n) = some (nearest n) := by
      have hcast : ((n : Int) : Rat) = n := Int.cast_natCast n
      rw [← hcast]
      exact rational?_ofInt hk (by rwa [hcast, abs_of_nonneg hn])
    have hself : nearest (nearest (n : Rat)) = nearest n := nearest_of_rational? hint
    have hone := rational?_mul hint rational?_one hk
      (by rwa [mul_one, abs_nearest, abs_of_nonneg hn, hself])
    rw [ofNat_of_lt hlt, hone, mul_one, hself]
  · have hvalue : (((n <<< 53) * 10 ^ 0 : Nat) : Rat) = (n : Rat) / 2 ^ (-53 + 0 : Int) := by
      rw [Nat.shiftLeft_eq, pow_zero, mul_one, add_zero, zpow_neg, div_inv_eq_mul]
      push_cast
      rfl
    rw [ofNat_of_ge hge]
    refine rational?_round .positive ?_ (Or.inl ?_) hk h
    · rw [← hvalue]
      exact marks_exact _
    · rw [Nat.shiftLeft_eq]
      omega

/-! ### Square roots -/

/-- What a root is rounded from is marked as the root, or as a little more. -/
theorem exists_marks_root (root rem : Nat) : ∃ v : Rat, (root : Rat) ≤ v ∧ v < root + 1 ∧
    Marks (.ofMantissaAndAccuracy root
      (if rem = 0 then .exact else .inexact (if rem ≤ root then .lt else .gt))) v := by
  split_ifs
  · exact ⟨root, le_rfl, by linarith, marks_exact _⟩
  · refine ⟨root + 1 / 4, by linarith, by linarith, marks_below_half.2 ?_⟩
    constructor <;> linarith
  · refine ⟨root + 3 / 4, by linarith, by linarith, marks_above_half.2 ?_⟩
    constructor <;> linarith

/-- A mantissa that is made long enough has a root of fifty-three bits. -/
theorem two_pow_le_sqrt_shiftLeft {m d : Nat} (hm : 0 < m) (h : 104 ≤ m.log2 + d) :
    2 ^ 52 ≤ (m <<< d).sqrt := by
  rw [Nat.le_sqrt, Nat.shiftLeft_eq, ← Nat.pow_add]
  calc 2 ^ (52 + 52) ≤ 2 ^ (m.log2 + d) := Nat.pow_le_pow_right (by decide) h
    _ = 2 ^ m.log2 * 2 ^ d := Nat.pow_add _ _ _
    _ ≤ m * 2 ^ d := Nat.mul_le_mul_right _ (Nat.log2_self_le hm.ne')

theorem sqrt_mul_lt {m : Nat} {u k : Int} (h : (m : Rat) * 2 ^ (2 * u) < 2 ^ (2 * k)) :
    (m.sqrt : Rat) * 2 ^ u < 2 ^ k := by
  have hsq : (m.sqrt : Rat) * m.sqrt ≤ m := by exact_mod_cast Nat.sqrt_le m
  rw [two_mul, two_mul, zpow_add₀ two_ne_zero, zpow_add₀ two_ne_zero] at h
  refine lt_of_mul_self_lt_mul_self₀ (by positivity) ?_
  calc (m.sqrt : Rat) * 2 ^ u * (m.sqrt * 2 ^ u) = m.sqrt * m.sqrt * (2 ^ u * 2 ^ u) := by ring
    _ ≤ m * (2 ^ u * 2 ^ u) := mul_le_mul_of_nonneg_right hsq (by positivity)
    _ < 2 ^ k * 2 ^ k := h

theorem Canonical.value_lt {m : Nat} {e : Int} (hc : Canonical m e) :
    (m : Rat) * 2 ^ e < 2 ^ (2 * 512 : Int) := by
  have hm : (m : Rat) < 2 ^ (53 : Int) := by exact_mod_cast hc.lt
  have he : (2 : Rat) ^ e ≤ 2 ^ (971 : Int) := zpow_le_zpow_right₀ one_le_two hc.exponent_le
  have hexponent : (2 * 512 : Int) = 53 + 971 := by norm_num
  rw [hexponent, zpow_add₀ two_ne_zero]
  calc (m : Rat) * 2 ^ e < 2 ^ (53 : Int) * 2 ^ e := mul_lt_mul_of_pos_right hm (by positivity)
    _ ≤ 2 ^ (53 : Int) * 2 ^ (971 : Int) := mul_le_mul_of_nonneg_left he (by positivity)

/-- What is not negative has a finite root. -/
theorem exists_rational?_sqrt {x : Float} {q : Rat} (hx : rational? x = some q) (hq : 0 ≤ q) :
    ∃ r, rational? x.sqrt = some r := by
  have hsqrt : x.sqrt = .ofModel (.pack (UnpackedFloat.sqrt Format.binary64 x.toModel.unpack)) :=
    rfl
  rcases unpack_of_rational? hx with ⟨s, hs, rfl⟩ | ⟨s, m, e, hm, hs, hc, rfl⟩
  · rw [hsqrt, hs]
    exact ⟨0, rational?_zero s⟩
  cases s with
  | negative =>
    have hpos : 0 < (m : Rat) * 2 ^ e := by positivity
    rw [signed] at hq
    linarith
  | positive =>
  obtain ⟨u, hu⟩ : ∃ u, u = min (e.ediv 2)
    (Format.binary64.targetExponent ((totalExponent m e + 1).ediv 2)) := ⟨_, rfl⟩
  have hhalf (z : Int) : z.ediv 2 = z / 2 := rfl
  have hu' := hu
  rw [targetExponent_def, totalExponent, hhalf, hhalf] at hu'
  obtain ⟨n, hn⟩ : ∃ n, n = m <<< (e - 2 * u).toNat := ⟨_, rfl⟩
  have hround : UnpackedFloat.sqrt Format.binary64 (.finite .positive m e hm) =
      roundWithAccuracy Format.binary64 .positive n.sqrt u
        (if n - n.sqrt * n.sqrt = 0 then .exact
          else .inexact (if n - n.sqrt * n.sqrt ≤ n.sqrt then .lt else .gt)) := by
    rw [UnpackedFloat.sqrt, sqrtCore, ← hu, ← hn]
  have hvalue : (n : Rat) * 2 ^ (2 * u) = m * 2 ^ e := by
    rw [hn, Nat.shiftLeft_eq]
    push_cast
    rw [mul_assoc, ← zpow_natCast, ← zpow_add₀ two_ne_zero, Int.toNat_of_nonneg (by omega),
      sub_add_cancel]
  have hroot : (n.sqrt : Rat) * 2 ^ u < 2 ^ (512 : Int) := by
    refine sqrt_mul_lt ?_
    rw [hvalue]
    exact hc.value_lt
  have hone : (1 : Rat) ≤ n.sqrt := by
    have hn0 : 0 < n := by
      rw [hn, Nat.shiftLeft_eq]
      positivity
    exact_mod_cast Nat.sqrt_pos.2 hn0
  obtain ⟨v, hle, hlt, hmarks⟩ := exists_marks_root n.sqrt (n - n.sqrt * n.sqrt)
  have hbound : v * 2 ^ u ≤ 2 ^ (512 + 1 : Int) := by
    calc v * 2 ^ u ≤ n.sqrt * 2 * 2 ^ u :=
          mul_le_mul_of_nonneg_right (by linarith) (by positivity)
      _ = n.sqrt * 2 ^ u * 2 := by ring
      _ ≤ 2 ^ (512 : Int) * 2 := mul_le_mul_of_nonneg_right hroot.le zero_le_two
      _ = 2 ^ (512 + 1 : Int) := (zpow_add_one₀ two_ne_zero 512).symm
  rw [hsqrt, hs, hround]
  refine ⟨_, rational?_round .positive (v := v * 2 ^ u) ?_ ?_ (by norm_num)
    (nearest_lt_two_zpow (by decide) hbound)⟩
  · rwa [mul_div_cancel_right₀ _ (by positivity)]
  · by_cases hsub : u ≤ -1074
    · exact Or.inr ⟨mul_pos (by linarith) (by positivity), hsub⟩
    · rw [hn]
      exact Or.inl (two_pow_le_sqrt_shiftLeft hm (by omega))

end Keyspace.Binary64
