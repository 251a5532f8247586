import Keyspace.Proofs.Binary64.Rounding

/-!
What doubles come to when they are added, subtracted and multiplied.

A finite double stands for a rational (`rational?`) that is its own nearest, and an operation on
finite doubles comes to the double nearest to what it comes to on their rationals, as long as that
is not too large. Each of these lemmas asks for it as a power of two, at most `2 ^ 1024`, that the
result does not reach. Products are also told where they reach it (`roundsTo_mul`).
-/

namespace Keyspace.Binary64

open Float.Model Float.Model.UnpackedFloat

/-! ### Doubles are their own nearest -/

/-- A multiple of a possible last place that has at most fifty-three bits stays as it is. -/
theorem nearest_mul_two_zpow {n e : Int} (hn : |n| < 2 ^ 53) (he : -1074 ≤ e) :
    nearest (n * 2 ^ e) = n * 2 ^ e := by
  rcases eq_or_ne n 0 with rfl | hne
  · rw [Int.cast_zero, zero_mul, nearest_zero]
  have hq : (n : Rat) * 2 ^ e ≠ 0 := mul_ne_zero (by exact_mod_cast hne) (by positivity)
  have hlog : Int.log 2 |(n : Rat) * 2 ^ e| < 53 + e := by
    rw [← Int.lt_zpow_iff_log_lt (by decide) (abs_pos.2 hq), abs_mul, abs_of_pos
      (show (0 : Rat) < 2 ^ e by positivity), ← Int.cast_abs, Nat.cast_ofNat,
      zpow_add₀ two_ne_zero]
    exact mul_lt_mul_of_pos_right (by exact_mod_cast hn) (by positivity)
  have hunit : unitExponent (n * 2 ^ e) ≤ e := by
    unfold unitExponent
    omega
  refine nearest_of_eq_mul (n := n * 2 ^ (e - unitExponent (n * 2 ^ e)).toNat) ?_
  push_cast
  rw [mul_assoc, ← zpow_natCast, Int.toNat_of_nonneg (by omega), ← zpow_add₀ two_ne_zero,
    Int.sub_add_cancel]

/-- What a finite double is made of. -/
structure Canonical (m : Nat) (e : Int) : Prop where
  lt : m < 2 ^ 53
  le_exponent : -1074 ≤ e
  exponent_le : e ≤ 971
  full : 2 ^ 52 ≤ m ∨ e = -1074

theorem canonical_of_unpack {x : Float} {s : Sign} {m : Nat} {e : Int} {hm : 0 < m}
    (h : x.toModel.unpack = .finite s m e hm) : Canonical m e := by
  change UnpackedFloat.unpack Format.binary64 _ = _ at h
  unfold UnpackedFloat.unpack at h
  dsimp only at h
  have hbits := (@unpackExponent Format.binary64 x.toModel.toBits.toBitVec).isLt
  have hmantissa := (@unpackMantissa Format.binary64 x.toModel.toBits.toBitVec).isLt
  split at h
  · split at h <;> cases h
  next hones =>
    split at h
    · split at h
      · cases h
      next hzero _ =>
        simp only [hzero, UnpackedFloat.finite.injEq] at h
        obtain ⟨-, rfl, rfl⟩ := h
        refine ⟨?_, ?_, ?_, Or.inr ?_⟩
        · exact hmantissa.trans (by norm_num)
        all_goals decide
    next hzero =>
      simp only [UnpackedFloat.finite.injEq] at h
      obtain ⟨-, rfl, rfl⟩ := h
      rw [BitVec.toNat_eq] at hones hzero
      have hones' : (@unpackExponent Format.binary64 x.toModel.toBits.toBitVec).toNat ≠
        2047 := hones
      have hzero' : (@unpackExponent Format.binary64 x.toModel.toBits.toBitVec).toNat ≠
        0 := hzero
      have hbias : (Format.binary64.exponentBias : Int) +
        Format.binary64.mantissaBitsWithoutImplicit = 1075 := by decide
      rw [hbias, toNat_one_append]
      simp only at hbits hmantissa
      refine ⟨?_, ?_, ?_, Or.inl ?_⟩ <;> omega

/-- A finite double is a zero or has a mantissa. -/
theorem unpack_of_rational? {x : Float} {q : Rat} (h : rational? x = some q) :
    (∃ s, x.toModel.unpack = .zero s ∧ q = 0) ∨
      ∃ s m e, ∃ hm : 0 < m, x.toModel.unpack = .finite s m e hm ∧ Canonical m e ∧
        q = signed s (m * 2 ^ e) := by
  cases hu : x.toModel.unpack with
  | infinity s => simp [rational?, hu] at h
  | notANumber => simp [rational?, hu] at h
  | zero s =>
    simp only [rational?, hu, Option.some.injEq] at h
    exact Or.inl ⟨s, rfl, h.symm⟩
  | finite s m e hm =>
    rw [rational?_eq_of_unpack hu, Option.some.injEq] at h
    exact Or.inr ⟨s, m, e, hm, rfl, canonical_of_unpack hu, h.symm⟩

theorem isFinite_iff {x : Float} : x.isFinite ↔ ∃ q, rational? x = some q := by
  change x.toModel.unpack.isFinite = true ↔ _
  unfold rational?
  cases x.toModel.unpack with
  | finite s m e hm => cases s <;> simp [UnpackedFloat.isFinite]
  | _ => simp [UnpackedFloat.isFinite]

theorem isFinite_of_rational? {x : Float} {q : Rat} (h : rational? x = some q) : x.isFinite :=
  isFinite_iff.2 ⟨q, h⟩

theorem unpack_of_isInf {x : Float} (h : x.isInf) : ∃ s, x.toModel.unpack = .infinity s := by
  change x.toModel.unpack.isInf = true at h
  cases hu : x.toModel.unpack with
  | infinity s => exact ⟨s, rfl⟩
  | _ => rw [hu] at h; cases h

theorem unpack_of_isNaN {x : Float} (h : x.isNaN) : x.toModel.unpack = .notANumber := by
  change x.toModel.unpack.isNaN = true at h
  cases hu : x.toModel.unpack with
  | notANumber => rfl
  | _ => rw [hu] at h; cases h

theorem rational?_of_isInf {x : Float} (h : x.isInf) : rational? x = none := by
  obtain ⟨s, hu⟩ := unpack_of_isInf h
  rw [rational?, hu]

theorem rational?_of_isNaN {x : Float} (h : x.isNaN) : rational? x = none := by
  rw [rational?, unpack_of_isNaN h]

theorem isInf_of_isNaN {x : Float} (h : x.isNaN) : x.isInf = false := by
  change x.toModel.unpack.isInf = false
  rw [unpack_of_isNaN h]
  rfl

theorem rational_or_isInf_or_isNaN (x : Float) :
    (∃ q, rational? x = some q) ∨ x.isInf ∨ x.isNaN := by
  rw [← isFinite_iff]
  change x.toModel.unpack.isFinite = true ∨ x.toModel.unpack.isInf = true ∨
    x.toModel.unpack.isNaN = true
  cases x.toModel.unpack <;> simp [UnpackedFloat.isFinite, UnpackedFloat.isInf, UnpackedFloat.isNaN]

/-- What is at most a power of two does not reach the next one. -/
theorem nearest_lt_two_zpow {q : Rat} {k : Int} (hk : -1074 ≤ k) (h : q ≤ 2 ^ k) :
    nearest q < 2 ^ (k + 1) := by
  rw [zpow_add_one₀ two_ne_zero]
  have hle : nearest q ≤ 2 ^ k := (nearest_mono h).trans_eq (nearest_two_zpow hk)
  have hpos : (0 : Rat) < 2 ^ k := by positivity
  linarith

/-! ### Signs -/

theorem signed_neg (s : Sign) (q : Rat) : signed (-s) q = -signed s q := by
  cases s with
  | positive => rfl
  | negative => exact (neg_neg q).symm

theorem signed_mul (s t : Sign) (p q : Rat) :
    signed (s * t) (p * q) = signed s p * signed t q := by
  cases s <;> cases t
  · exact (neg_mul_neg p q).symm
  · exact (neg_mul p q).symm
  · exact (mul_neg p q).symm
  · rfl

theorem signed_div (s t : Sign) (p q : Rat) :
    signed (s / t) (p / q) = signed s p / signed t q := by
  cases s <;> cases t
  · exact (neg_div_neg_eq p q).symm
  · exact (neg_div q p).symm
  · exact (div_neg p).symm
  · rfl

/-- A double is its own nearest. -/
theorem nearest_of_rational? {x : Float} {q : Rat} (h : rational? x = some q) : nearest q = q := by
  rcases unpack_of_rational? h with ⟨_, _, rfl⟩ | ⟨s, m, e, _, _, hc, rfl⟩
  · exact nearest_zero
  · rw [← signed_nearest]
    congr 1
    exact nearest_mul_two_zpow (n := m) (by rw [Nat.abs_cast]; exact_mod_cast hc.lt) hc.le_exponent

/-! ### Sums, differences and integers -/

/-- A mantissa of any length that is rounded. -/
theorem rational?_round_exact (s : Sign) {m : Nat} {e k : Int} (hm : 0 < m) (hk : k ≤ 1024)
    (hlt : nearest (m * 2 ^ e) < 2 ^ k) :
    rational? (.ofModel (.pack (UnpackedFloat.round Format.binary64 s m e))) =
      some (signed s (nearest (m * 2 ^ e))) := by
  obtain ⟨t, ht⟩ : ∃ t, t = Format.binary64.targetExponent (totalExponent m e) := ⟨_, rfl⟩
  have ht' := ht
  rw [targetExponent_eq] at ht'
  have hvalue : ((m <<< (e - t).toNat : Nat) : Rat) * 2 ^ (e - ((e - t).toNat : Int)) =
      m * 2 ^ e := by
    rw [Nat.shiftLeft_eq]
    push_cast
    rw [mul_assoc, ← zpow_natCast, ← zpow_add₀ two_ne_zero, add_sub_cancel]
  have hv : 0 < (m : Rat) * 2 ^ e := by positivity
  have hround : UnpackedFloat.round Format.binary64 s m e =
      roundWithAccuracy Format.binary64 s (m <<< (e - t).toNat) (e - ((e - t).toNat : Int))
        .exact := by
    rw [UnpackedFloat.round, decreaseExponent, ht]
  rw [hround]
  refine rational?_round s ?_ ?_ hk hlt
  · rw [← hvalue, mul_div_cancel_right₀ _ (by positivity)]
    exact marks_exact _
  · by_cases hsub : t = -1074
    · exact Or.inr ⟨hv, by omega⟩
    -- Above the least last place the first bit comes to stand at the fifty-third.
    · refine Or.inl ?_
      have hlog : 52 ≤ m.log2 + (e - t).toNat := by omega
      calc 2 ^ 52 ≤ 2 ^ (m.log2 + (e - t).toNat) := Nat.pow_le_pow_right (by decide) hlog
        _ = 2 ^ m.log2 * 2 ^ (e - t).toNat := Nat.pow_add _ _ _
        _ ≤ m * 2 ^ (e - t).toNat := Nat.mul_le_mul_right _ (Nat.log2_self_le hm.ne')
        _ = m <<< (e - t).toNat := (Nat.shiftLeft_eq _ _).symm

theorem rational?_normalize (s : Sign) {n e k : Int} (hk : k ≤ 1024)
    (hlt : nearest |n * 2 ^ e| < 2 ^ k) :
    rational? (.ofModel (.pack (UnpackedFloat.normalize Format.binary64 n e s))) =
      some (nearest (n * 2 ^ e)) := by
  have habs : |(n : Rat) * 2 ^ e| = (n.natAbs : Rat) * 2 ^ e := by
    rw [abs_mul, abs_of_pos (show (0 : Rat) < 2 ^ e by positivity), ← Int.cast_abs,
      Int.abs_eq_natAbs, Int.cast_natCast]
  rw [habs] at hlt
  rcases lt_trichotomy n 0 with hn | rfl | hn
  · have hround : UnpackedFloat.normalize Format.binary64 n e s =
        UnpackedFloat.round Format.binary64 .negative n.natAbs e := by
      rw [UnpackedFloat.normalize, Int.compare_eq_lt.2 hn]
      simp only
      congr 1
      omega
    have hneg : (n : Rat) * 2 ^ e = -((n.natAbs : Rat) * 2 ^ e) := by
      rw [← habs, abs_of_neg (mul_neg_of_neg_of_pos (by exact_mod_cast hn) (by positivity)),
        neg_neg]
    rw [hround, rational?_round_exact .negative (by omega) hk hlt, hneg, nearest_neg]
    rfl
  · rw [Int.cast_zero, zero_mul, nearest_zero]
    exact rational?_zero s
  · have hround : UnpackedFloat.normalize Format.binary64 n e s =
        UnpackedFloat.round Format.binary64 .positive n.natAbs e := by
      rw [UnpackedFloat.normalize, Int.compare_eq_gt.2 hn]
      simp only
      congr 1
      omega
    have hpos : (n : Rat) * 2 ^ e = (n.natAbs : Rat) * 2 ^ e := by
      rw [← habs, abs_of_pos (mul_pos (by exact_mod_cast hn) (by positivity))]
    rw [hround, rational?_round_exact .positive (by omega) hk hlt, hpos]
    rfl

theorem rational?_ofInt {n k : Int} (hk : k ≤ 1024) (h : nearest |(n : Rat)| < 2 ^ k) :
    rational? (ofInt n) = some (nearest n) := by
  have hone : (n : Rat) * 2 ^ (0 : Int) = n := by rw [zpow_zero, mul_one]
  have hnormal := rational?_normalize .positive (n := n) (e := 0) hk (by rwa [hone])
  rw [hone] at hnormal
  exact hnormal

/-- A mantissa brought to a lesser exponent. -/
theorem apply_decreaseExponent (s : Sign) (m : Nat) {e f : Int} (h : f ≤ e) :
    ((s.apply (decreaseExponent m e f).1 : Int) : Rat) * 2 ^ f = signed s (m * 2 ^ e) := by
  have hvalue : ((m <<< (e - f).toNat : Nat) : Rat) * 2 ^ f = m * 2 ^ e := by
    rw [Nat.shiftLeft_eq]
    push_cast
    rw [mul_assoc, ← zpow_natCast, ← zpow_add₀ two_ne_zero, Int.toNat_of_nonneg (by omega),
      sub_add_cancel]
  have hshift : (decreaseExponent m e f).1 = m <<< (e - f).toNat := rfl
  rw [hshift]
  cases s with
  | positive =>
    rw [Sign.apply, Int.cast_natCast]
    exact hvalue
  | negative =>
    rw [Sign.apply, Int.cast_neg, Int.cast_natCast, neg_mul, hvalue]
    rfl

section

variable {x y : Float} {a b : Rat} {k : Int}

theorem rational?_add (hx : rational? x = some a) (hy : rational? y = some b) (hk : k ≤ 1024)
    (h : nearest |a + b| < 2 ^ k) : rational? (x + y) = some (nearest (a + b)) := by
  have hadd : x + y =
    .ofModel (.pack (add Format.binary64 x.toModel.unpack y.toModel.unpack)) := rfl
  rcases unpack_of_rational? hx with ⟨s, hs, rfl⟩ | ⟨s, m, e, hm, hs, hc, rfl⟩
  · rw [zero_add, nearest_of_rational? hy]
    rcases unpack_of_rational? hy with ⟨t, ht, rfl⟩ | ⟨t, m, e, hm, ht, hc, rfl⟩
    · rw [hadd, hs, ht]
      cases s <;> cases t <;> rfl
    · rw [hadd, hs, ht]
      exact rational?_pack hm hc.lt hc.le_exponent hc.exponent_le hc.full
  rcases unpack_of_rational? hy with ⟨t, ht, rfl⟩ | ⟨t, n, f, hn, ht, _, rfl⟩
  · rw [add_zero, nearest_of_rational? hx, hadd, hs, ht]
    exact rational?_pack hm hc.lt hc.le_exponent hc.exponent_le hc.full
  · have hsum : signed s (m * 2 ^ e) + signed t (n * 2 ^ f) =
        ((s.apply (decreaseExponent m e (min e f)).1 +
          t.apply (decreaseExponent n f (min e f)).1 : Int) : Rat) * 2 ^ min e f := by
      rw [Int.cast_add, add_mul, apply_decreaseExponent s m (min_le_left e f),
        apply_decreaseExponent t n (min_le_right e f)]
    rw [hadd, hs, ht]
    rw [hsum] at h ⊢
    exact rational?_normalize .positive hk h

theorem rational?_sub (hx : rational? x = some a) (hy : rational? y = some b) (hk : k ≤ 1024)
    (h : nearest |a - b| < 2 ^ k) : rational? (x - y) = some (nearest (a - b)) := by
  have hsub : x - y =
    .ofModel (.pack (sub Format.binary64 x.toModel.unpack y.toModel.unpack)) := rfl
  rcases unpack_of_rational? hx with ⟨s, hs, rfl⟩ | ⟨s, m, e, hm, hs, hc, rfl⟩
  · rw [zero_sub, nearest_neg, nearest_of_rational? hy]
    rcases unpack_of_rational? hy with ⟨t, ht, rfl⟩ | ⟨t, m, e, hm, ht, hc, rfl⟩
    · rw [hsub, hs, ht]
      cases s <;> cases t <;> rfl
    · rw [hsub, hs, ht, ← signed_neg]
      exact rational?_pack hm hc.lt hc.le_exponent hc.exponent_le hc.full
  rcases unpack_of_rational? hy with ⟨t, ht, rfl⟩ | ⟨t, n, f, hn, ht, _, rfl⟩
  · rw [sub_zero, nearest_of_rational? hx, hsub, hs, ht]
    exact rational?_pack hm hc.lt hc.le_exponent hc.exponent_le hc.full
  · have hdiff : signed s (m * 2 ^ e) - signed t (n * 2 ^ f) =
        ((s.apply (decreaseExponent m e (min e f)).1 -
          t.apply (decreaseExponent n f (min e f)).1 : Int) : Rat) * 2 ^ min e f := by
      rw [Int.cast_sub, sub_mul, apply_decreaseExponent s m (min_le_left e f),
        apply_decreaseExponent t n (min_le_right e f)]
    rw [hsub, hs, ht]
    rw [hdiff] at h ⊢
    exact rational?_normalize .positive hk h

/-! ### Products -/

theorem roundsTo_mul (hx : rational? x = some a) (hy : rational? y = some b) :
    RoundsTo (a * b) (x * y) := by
  have hmul : x * y =
    .ofModel (.pack (mul Format.binary64 x.toModel.unpack y.toModel.unpack)) := rfl
  rcases unpack_of_rational? hx with ⟨s, hs, rfl⟩ | ⟨s, m, e, hm, hs, hc, rfl⟩
  · rw [zero_mul]
    rcases unpack_of_rational? hy with ⟨t, ht, rfl⟩ | ⟨t, n, f, hn, ht, _, rfl⟩
    all_goals
      rw [hmul, hs, ht]
      exact roundsTo_zero _
  rcases unpack_of_rational? hy with ⟨t, ht, rfl⟩ | ⟨t, n, f, hn, ht, hc', rfl⟩
  · rw [mul_zero, hmul, hs, ht]
    exact roundsTo_zero _
  · have hvalue : ((m * n : Nat) : Rat) * 2 ^ (e + f) = m * 2 ^ e * (n * 2 ^ f) := by
      rw [zpow_add₀ two_ne_zero]
      push_cast
      ring
    have hpos : 0 < (m : Rat) * 2 ^ e * (n * 2 ^ f) := by positivity
    rw [hmul, hs, ht, ← signed_mul]
    refine roundsTo_round (s * t) ?_ ?_
    · rw [← hvalue, mul_div_cancel_right₀ _ (by positivity)]
      exact marks_exact _
    · rcases hc.full with hfull | he
      · exact Or.inl (hfull.trans (Nat.le_mul_of_pos_right m hn))
      rcases hc'.full with hfull | hf
      · exact Or.inl (hfull.trans (Nat.le_mul_of_pos_left n hm))
      · exact Or.inr ⟨hpos, by omega⟩

theorem rational?_mul (hx : rational? x = some a) (hy : rational? y = some b) (hk : k ≤ 1024)
    (h : nearest |a * b| < 2 ^ k) : rational? (x * y) = some (nearest (a * b)) :=
  (roundsTo_mul hx hy).rational?_eq hk h

end

end Keyspace.Binary64
