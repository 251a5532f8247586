import Keyspace.Proofs.Binary64.Nearest

/-!
A rounded mantissa is the nearest double.

A number on its way to a double is a mantissa, an exponent and two bits about what lies behind the
last place (`Marks`). A place that is given up goes into the bits, so nothing that rounding asks for
is lost (`Marks.shiftRight`), and the mantissa that is left is rounded as the number itself would be
(`Marks.roundedMantissa_eq`). What comes of it is packed and unpacked again unchanged, unless its
exponent is too large, and then as an infinity (`roundsTo_round`).

    m, e, bits ──▶ shift to the last place ──▶ round ──▶ shift once more ──▶ pack
-/

namespace Keyspace.Binary64

open Float.Model Float.Model.UnpackedFloat
open Decimal (roundHalfEven)

/-! ### Rounded mantissas -/

/-- The number that a mantissa and its two bits stand for: the bits tell in which half of the last
    place it lies, or that it lies at an end. -/
def Marks (em : ExtendedMantissa) (x : Rat) : Prop :=
  match em.roundBit, em.stickyBit with
  | false, false => x = em.mantissa
  | false, true => (em.mantissa : Rat) < x ∧ x < em.mantissa + 1 / 2
  | true, false => x = em.mantissa + 1 / 2
  | true, true => (em.mantissa : Rat) + 1 / 2 < x ∧ x < em.mantissa + 1

theorem Marks.floor_eq {em : ExtendedMantissa} {x : Rat} (h : Marks em x) :
    x.floor = em.mantissa := by
  change ⌊x⌋ = _
  rw [Int.floor_eq_iff, Int.cast_natCast]
  obtain ⟨m, r, s⟩ := em
  cases r <;> cases s <;> simp only [Marks] at h <;> constructor <;> linarith

theorem Marks.roundedMantissa_eq {em : ExtendedMantissa} {x : Rat} (h : Marks em x) :
    (em.roundedMantissa : Int) = roundHalfEven x := by
  have hfloor := h.floor_eq
  unfold roundHalfEven
  rw [hfloor]
  obtain ⟨m, r, s⟩ := em
  cases r <;> cases s <;>
    simp only [Marks, ExtendedMantissa.roundedMantissa, ExtendedMantissa.accuracy,
      Accuracy.roundToNearestEven, Int.cast_natCast] at h ⊢
  all_goals push_cast
  all_goals split_ifs <;> first | omega | linarith

/-- A place given up is kept in the bits. -/
theorem Marks.shiftRightOne {em : ExtendedMantissa} {x : Rat} (h : Marks em x) :
    Marks em.shiftRightOne (x / 2) := by
  obtain ⟨m, r, s⟩ := em
  have hm : ((m % 2 : Nat) : Rat) + 2 * ((m / 2 : Nat) : Rat) = m := by
    exact_mod_cast Nat.mod_add_div m 2
  rcases Nat.mod_two_eq_zero_or_one m with hpar | hpar <;> rw [hpar] at hm <;>
    cases r <;> cases s <;>
    simp only [Marks, ExtendedMantissa.shiftRightOne, hpar, Nat.reduceBNe, Bool.or_true,
      Bool.or_false] at h ⊢ <;>
    push_cast at hm <;> first | linarith | constructor <;> linarith

theorem Marks.shiftRight {em : ExtendedMantissa} {x : Rat} (h : Marks em x) (n : Nat) :
    Marks (em >>> n) (x / 2 ^ n) := by
  change Marks (n.repeat ExtendedMantissa.shiftRightOne em) _
  induction n with
  | zero => simpa [Nat.repeat] using h
  | succ n ih =>
    rw [Nat.repeat, pow_succ, ← div_div]
    exact ih.shiftRightOne

theorem marks_exact (m : Nat) : Marks (.ofMantissaAndAccuracy m .exact) m := rfl

/-! ### Rounding a mantissa and its exponent -/

theorem targetExponent_eq (m : Nat) (e : Int) :
    Format.binary64.targetExponent (totalExponent m e) = max (m.log2 + e - 52) (-1074) := by
  simp only [Format.targetExponent, totalExponent, Format.mantissaBits, Format.minExponent]
  norm_num
  omega

/-- A number next to a mantissa has the mantissa's last place. -/
theorem targetExponent_eq_unitExponent {m : Nat} {e : Int} {v : Rat} (hle : (m : Rat) * 2 ^ e ≤ v)
    (hlt : v < ((m : Rat) + 1) * 2 ^ e) (hm : 2 ^ 52 ≤ m ∨ 0 < v ∧ e ≤ -1074) :
    e ≤ unitExponent v ∧
      Format.binary64.targetExponent (totalExponent m e) = unitExponent v := by
  rw [targetExponent_eq]
  rcases Nat.eq_zero_or_pos m with rfl | hpos
  · have he : 0 < v ∧ e ≤ -1074 := hm.resolve_left (by norm_num)
    have hlog : Int.log 2 |v| < e := by
      rw [← Int.lt_zpow_iff_log_lt (by decide) (abs_pos.2 he.1.ne'), abs_of_pos he.1]
      push_cast at hlt ⊢
      linarith
    unfold unitExponent
    simp only [Nat.log2_zero]
    omega
  · have hv : 0 < v := lt_of_lt_of_le (by positivity) hle
    have hlo : (2 : Rat) ^ m.log2 ≤ m := by exact_mod_cast Nat.log2_self_le hpos.ne'
    have hhi : (m : Rat) + 1 ≤ 2 ^ (m.log2 + 1) := by exact_mod_cast Nat.lt_log2_self
    have hunit : unitExponent v = max (m.log2 + e - 52) (-1074) := by
      apply unitExponent_of_le_of_lt <;> rw [abs_of_pos hv]
      · rw [zpow_add₀ two_ne_zero, zpow_natCast]
        exact (mul_le_mul_of_nonneg_right hlo (by positivity)).trans hle
      · rw [add_right_comm, zpow_add₀ two_ne_zero, ← Nat.cast_succ, zpow_natCast]
        exact hlt.trans_le (mul_le_mul_of_nonneg_right hhi (by positivity))
    rw [hunit]
    refine ⟨?_, rfl⟩
    rcases hm with hm | hm
    · have : 52 ≤ m.log2 := (Nat.le_log2 hpos.ne').2 hm
      omega
    · omega

theorem shiftToExponent_eq (m : Nat) {e t : Int} (h : e ≤ t) (a : Accuracy) :
    shiftToExponent m e a t =
      (ExtendedMantissa.ofMantissaAndAccuracy m a >>> (t - e).toNat, t) := by
  simp only [shiftToExponent, Prod.mk.injEq, true_and]
  omega

/-- A rounded mantissa keeps its place, unless it got a fifty-fourth bit. -/
theorem shiftToTargetExponent_eq {r : Nat} {t : Int} (hr : r ≤ 2 ^ 53) (ht : -1074 ≤ t) :
    shiftToTargetExponent Format.binary64 r t .exact =
      if r < 2 ^ 53 then (⟨r, false, false⟩, t) else (⟨2 ^ 52, false, false⟩, t + 1) := by
  split_ifs with hlt
  · have hlog : r.log2 ≤ 52 := by
      rcases Nat.eq_zero_or_pos r with rfl | hpos
      · simp
      · exact Nat.lt_succ_iff.1 ((Nat.log2_lt hpos.ne').2 hlt)
    rw [shiftToTargetExponent, targetExponent_eq, shiftToExponent]
    rw [show (max ((r.log2 : Int) + t - 52) (-1074) - t).toNat = 0 by omega]
    simp only [Int.ofNat_zero, Int.add_zero]
    rfl
  · obtain rfl : r = 2 ^ 53 := by omega
    rw [shiftToTargetExponent, targetExponent_eq, Nat.log2_two_pow, shiftToExponent]
    rw [show (max ((53 : Nat) + t - 52) (-1074) - t).toNat = 1 by omega]
    rfl

/-! ### From unpacked to packed -/

/-- A rational with a sign in front. -/
def signed (s : Sign) (q : Rat) : Rat :=
  match s with
  | .positive => q
  | .negative => -q

theorem signed_nearest (s : Sign) (q : Rat) : signed s (nearest q) = nearest (signed s q) := by
  cases s with
  | positive => rfl
  | negative => exact (nearest_neg q).symm

theorem abs_signed (s : Sign) (q : Rat) : |signed s q| = |q| := by
  cases s with
  | positive => rfl
  | negative => exact abs_neg q

theorem rational?_zero (s : Sign) : rational? (.ofModel (.pack (.zero s))) = some 0 := by
  cases s <;> rfl

theorem rational?_eq_of_unpack {x : Float} {s : Sign} {m : Nat} {e : Int} {hm : 0 < m}
    (h : x.toModel.unpack = .finite s m e hm) :
    rational? x = some (signed s (m * 2 ^ e)) := by
  rw [rational?, h]
  cases s <;> rfl

theorem toNat_one_append (b : BitVec 52) : (1#1 ++ b).toNat = 2 ^ 52 + b.toNat := by
  rw [BitVec.toNat_append, ← Nat.shiftLeft_add_eq_or_of_lt b.isLt]
  rfl

theorem ofNat_ne {w a b : Nat} (ha : a < 2 ^ w) (hb : b < 2 ^ w) (h : a ≠ b) :
    BitVec.ofNat w a ≠ BitVec.ofNat w b := by
  intro heq
  have := congrArg BitVec.toNat heq
  rw [BitVec.toNat_ofNat, BitVec.toNat_ofNat, Nat.mod_eq_of_lt ha, Nat.mod_eq_of_lt hb] at this
  exact h this

theorem unpack_normal (s : Sign) {b m : Nat} (hm : 0 < m) (hb : 0 < b) (hb' : b < 2047)
    (hlo : 2 ^ 52 ≤ m) (hhi : m < 2 ^ 53) :
    UnpackedFloat.unpack Format.binary64
        (packComponents Format.binary64 s (BitVec.ofNat 11 b) (BitVec.ofNat 52 m)) =
      .finite s m (b - 1075) hm := by
  have hones : BitVec.ofNat 11 b ≠ -1#11 := ofNat_ne (b := 2047) (by omega) (by omega) (by omega)
  have hzero : BitVec.ofNat 11 b ≠ 0#11 := ofNat_ne (by omega) (by omega) (by omega)
  have hbits : (BitVec.ofNat 11 b).toNat = b := by
    rw [BitVec.toNat_ofNat, Nat.mod_eq_of_lt (by omega)]
  have hmantissa : (1#1 ++ BitVec.ofNat 52 m).toNat = m := by
    rw [toNat_one_append, BitVec.toNat_ofNat]
    omega
  rw [UnpackedFloat.unpack]
  simp only [unpackMantissa_packComponents, unpackExponent_packComponents,
    unpackSign_packComponents, Sign.ofBitVec_toBitVec, hbits, hmantissa]
  rw [if_neg hones, if_neg hzero]
  rfl

theorem unpack_subnormal (s : Sign) {m : Nat} (hm : 0 < m) (hlt : m < 2 ^ 52) :
    UnpackedFloat.unpack Format.binary64
        (packComponents Format.binary64 s 0#11 (BitVec.ofNat 52 m)) =
      .finite s m (-1074) hm := by
  have hzero : BitVec.ofNat 52 m ≠ 0#52 := ofNat_ne (by omega) (by omega) (by omega)
  have hmantissa : (BitVec.ofNat 52 m).toNat = m := by
    rw [BitVec.toNat_ofNat, Nat.mod_eq_of_lt (by omega)]
  rw [UnpackedFloat.unpack]
  simp only [unpackMantissa_packComponents, unpackExponent_packComponents,
    unpackSign_packComponents, Sign.ofBitVec_toBitVec, hmantissa]
  rw [if_neg (by decide), if_pos trivial, dif_neg hzero]
  rfl

/-- A finite double is unpacked as it was packed. -/
theorem unpack_pack {s : Sign} {m : Nat} {e : Int} (hm : 0 < m) (hlt : m < 2 ^ 53)
    (hlo : -1074 ≤ e) (hhi : e ≤ 971) (hc : 2 ^ 52 ≤ m ∨ e = -1074) :
    (Float.Model.pack (.finite s m e hm)).unpack = .finite s m e hm := by
  change UnpackedFloat.unpack Format.binary64 (UnpackedFloat.pack Format.binary64 _) = _
  obtain ⟨b, hb⟩ : ∃ b : Nat, (b : Int) = e + 1075 := ⟨(e + 1075).toNat, by omega⟩
  have hbiased : (e + Format.binary64.exponentBias +
      Format.binary64.mantissaBitsWithoutImplicit : Int).toNat = b := by
    change (e + 1023 + 52).toNat = b
    omega
  rw [UnpackedFloat.pack]
  simp only [hbiased]
  rw [if_neg (show ¬ 2 ^ 11 ≤ b + 1 by omega)]
  by_cases hn : 2 ^ 52 ≤ m
  · have hlog : m.log2 + 1 = Format.binary64.mantissaBits := by
      change m.log2 + 1 = 53
      have := (Nat.le_log2 hm.ne').2 hn
      have := (Nat.log2_lt hm.ne').2 hlt
      omega
    rw [if_pos hlog, unpack_normal s hm (by omega) (by omega) hn hlt]
    congr 1
    omega
  · have hlog : m.log2 + 1 ≠ Format.binary64.mantissaBits := by
      change m.log2 + 1 ≠ 53
      have := (Nat.log2_lt hm.ne').2 (Nat.lt_of_not_le hn)
      omega
    rw [if_neg hlog, unpack_subnormal s hm (by omega), hc.resolve_left hn]

theorem rational?_pack {s : Sign} {m : Nat} {e : Int} (hm : 0 < m) (hlt : m < 2 ^ 53)
    (hlo : -1074 ≤ e) (hhi : e ≤ 971) (hc : 2 ^ 52 ≤ m ∨ e = -1074) :
    rational? (.ofModel (.pack (.finite s m e hm))) = some (signed s (m * 2 ^ e)) :=
  rational?_eq_of_unpack (unpack_pack hm hlt hlo hhi hc)

/-! ### What is rounded -/

/-- What is rounded is zero, or it has a mantissa of fifty-three bits, or of fewer at the least
    exponent; and it stands for the nearest number. -/
theorem exists_rounded (s : Sign) {m : Nat} {e : Int} {a : Accuracy} {v : Rat}
    (hv : Marks (.ofMantissaAndAccuracy m a) (v / 2 ^ e)) (hm : 2 ^ 52 ≤ m ∨ 0 < v ∧ e ≤ -1074) :
    0 ≤ v ∧ ∃ (r : Nat) (t : Int), nearest v = r * 2 ^ t ∧ r < 2 ^ 53 ∧ -1074 ≤ t ∧
      (2 ^ 52 ≤ r ∨ t = -1074) ∧
      roundWithAccuracy Format.binary64 s m e a =
        if h : r = 0 then .zero s else .finite s r t (Nat.pos_of_ne_zero h) := by
  have hmantissa : (ExtendedMantissa.ofMantissaAndAccuracy m a).mantissa = m := by
    cases a with
    | exact => rfl
    | inexact o => cases o <;> rfl
  have hfloor : ⌊v / 2 ^ e⌋ = (m : Int) := by
    rw [← hmantissa]
    exact hv.floor_eq
  obtain ⟨hle, hlt'⟩ := Int.floor_eq_iff.1 hfloor
  rw [le_div_iff₀ (by positivity), Int.cast_natCast] at hle
  rw [div_lt_iff₀ (by positivity), Int.cast_natCast] at hlt'
  have hv0 : 0 ≤ v := by
    have : 0 ≤ (m : Rat) * 2 ^ e := by positivity
    exact this.trans hle
  obtain ⟨het, htarget⟩ := targetExponent_eq_unitExponent hle hlt' hm
  -- The first shift leaves the mantissa in units of the last place.
  obtain ⟨t, ht⟩ : ∃ t, t = unitExponent v := ⟨_, rfl⟩
  obtain ⟨em, hem⟩ : ∃ em, em = ExtendedMantissa.ofMantissaAndAccuracy m a >>> (t - e).toNat :=
    ⟨_, rfl⟩
  have hfirst : shiftToTargetExponent Format.binary64 m e a = (em, t) := by
    rw [shiftToTargetExponent, htarget, shiftToExponent_eq m het, hem, ht]
  have hmarks : Marks em (v / 2 ^ t) := by
    have hshift := hv.shiftRight (t - e).toNat
    rwa [← hem, div_div, ← zpow_natCast, ← zpow_add₀ two_ne_zero, Int.toNat_of_nonneg (by omega),
      add_sub_cancel] at hshift
  obtain ⟨r, hr⟩ : ∃ r, r = em.roundedMantissa := ⟨_, rfl⟩
  have hnearest : nearest v = (r : Rat) * 2 ^ t := by
    rw [nearest, ← ht, ← hmarks.roundedMantissa_eq, hr, Int.cast_natCast]
  have hmin : -1074 ≤ t := by
    rw [ht]
    exact le_max_right _ _
  have hmax : r ≤ 2 ^ 53 := by
    have h := nearest_le_unit hv0
    rw [hnearest, ← ht, add_comm, zpow_add₀ two_ne_zero] at h
    have h' := le_of_mul_le_mul_right h (by positivity)
    exact_mod_cast h'
  rw [roundWithAccuracy, hfirst]
  simp only [← hr, shiftToTargetExponent_eq hmax hmin]
  refine ⟨hv0, ?_⟩
  rcases Nat.eq_zero_or_pos r with rfl | hpos
  · exact ⟨0, -1074, by simp [hnearest], by norm_num, le_rfl, Or.inr rfl, rfl⟩
  by_cases hr53 : r < 2 ^ 53
  · refine ⟨r, t, hnearest, hr53, hmin, ?_, by simp only [if_pos hr53]⟩
    rcases hmin.eq_or_lt with heq | hgt
    · exact Or.inr heq.symm
    · have hv0' : v ≠ 0 := by
        rintro rfl
        rw [nearest_zero, eq_comm, mul_eq_zero, Nat.cast_eq_zero] at hnearest
        exact hnearest.elim hpos.ne' (by positivity)
      have h := unit_le_nearest (hv0.lt_of_ne hv0'.symm) (ht ▸ hgt)
      rw [hnearest, ← ht, add_comm, zpow_add₀ two_ne_zero] at h
      have h' := le_of_mul_le_mul_right h (by positivity)
      exact Or.inl (by exact_mod_cast h')
  -- A fifty-fourth bit moves the place by one.
  · obtain rfl : r = 2 ^ 53 := by omega
    refine ⟨2 ^ 52, t + 1, ?_, by norm_num, by omega, Or.inl le_rfl, by simp only [if_neg hr53]⟩
    rw [hnearest, zpow_add_one₀ two_ne_zero]
    push_cast
    ring

/-- What has too great an exponent is packed as an infinity. -/
theorem unpack_pack_overflow (s : Sign) {m : Nat} {e : Int} (hm : 0 < m) (he : 971 < e) :
    (Float.Model.pack (.finite s m e hm)).unpack = .infinity s := by
  change UnpackedFloat.unpack Format.binary64 (UnpackedFloat.pack Format.binary64 _) = _
  obtain ⟨b, hb⟩ : ∃ b : Nat, (b : Int) = e + 1075 := ⟨(e + 1075).toNat, by omega⟩
  have hbiased : (e + Format.binary64.exponentBias +
      Format.binary64.mantissaBitsWithoutImplicit : Int).toNat = b := by
    change (e + 1023 + 52).toNat = b
    omega
  rw [UnpackedFloat.pack]
  simp only [hbiased]
  rw [if_pos (show 2 ^ 11 ≤ b + 1 by omega)]
  cases s <;> rfl

/-- The least power of two that is beyond all doubles. -/
def limit : Rat := 2 ^ (1024 : Int)

theorem limit_pos : 0 < limit := by
  unfold limit
  positivity

theorem limit_eq {j k : Int} (h : j + k = 1024) : limit = 2 ^ j * 2 ^ k := by
  rw [limit, ← h, zpow_add₀ two_ne_zero]

/-- A double is what a rational is rounded to: it stands for the nearest number, or is an infinity
    where that is beyond all doubles. -/
def RoundsTo (q : Rat) (x : Float) : Prop :=
  if nearest |q| < limit then rational? x = some (nearest q)
  else x.toModel.unpack = .infinity (if q < 0 then .negative else .positive)

theorem RoundsTo.rational?_eq {q : Rat} {x : Float} {k : Int} (h : RoundsTo q x) (hk : k ≤ 1024)
    (hlt : nearest |q| < 2 ^ k) : rational? x = some (nearest q) := by
  have hle : (2 : Rat) ^ k ≤ limit := zpow_le_zpow_right₀ one_le_two hk
  have hlimit : nearest |q| < limit := hlt.trans_le hle
  rw [RoundsTo, if_pos hlimit] at h
  exact h

theorem roundsTo_zero (s : Sign) : RoundsTo 0 (.ofModel (.pack (.zero s))) := by
  have hlt : nearest |0| < limit := by
    rw [abs_zero, nearest_zero]
    exact limit_pos
  rw [RoundsTo, if_pos hlt, nearest_zero]
  exact rational?_zero s

/-- What is rounded is the number, with its sign, rounded. -/
theorem roundsTo_round (s : Sign) {m : Nat} {e : Int} {a : Accuracy} {v : Rat}
    (hv : Marks (.ofMantissaAndAccuracy m a) (v / 2 ^ e)) (hm : 2 ^ 52 ≤ m ∨ 0 < v ∧ e ≤ -1074) :
    RoundsTo (signed s v) (.ofModel (.pack (roundWithAccuracy Format.binary64 s m e a))) := by
  obtain ⟨hv0, r, t, hnearest, hr53, hmin, hcanonical, hround⟩ := exists_rounded s hv hm
  rw [RoundsTo, hround, abs_signed, abs_of_nonneg hv0, ← signed_nearest, hnearest]
  rcases Nat.eq_zero_or_pos r with rfl | hpos
  · have hlt : ((0 : Nat) : Rat) * 2 ^ t < limit := by
      rw [Nat.cast_zero, zero_mul]
      exact limit_pos
    rw [if_pos hlt, dif_pos rfl, rational?_zero, Nat.cast_zero, zero_mul]
    cases s <;> simp [signed]
  rw [dif_neg hpos.ne']
  rcases le_or_gt t 971 with ht | ht
  · have hr : (r : Rat) < 2 ^ (53 : Int) := by exact_mod_cast hr53
    have hlt : (r : Rat) * 2 ^ t < limit := by
      rw [limit_eq (j := 53) (k := 971) rfl]
      calc (r : Rat) * 2 ^ t < 2 ^ (53 : Int) * 2 ^ t :=
            mul_lt_mul_of_pos_right hr (by positivity)
        _ ≤ 2 ^ (53 : Int) * 2 ^ (971 : Int) :=
            mul_le_mul_of_nonneg_left (zpow_le_zpow_right₀ one_le_two ht) (by positivity)
    rw [if_pos hlt, rational?_pack hpos hr53 hmin ht hcanonical]
  · have hfull : 2 ^ 52 ≤ r := hcanonical.resolve_right (by omega)
    have hr : (2 : Rat) ^ (52 : Int) ≤ r := by exact_mod_cast hfull
    have hge : limit ≤ r * 2 ^ t := by
      rw [limit_eq (j := 52) (k := 972) rfl]
      calc (2 : Rat) ^ (52 : Int) * 2 ^ (972 : Int) ≤ 2 ^ (52 : Int) * 2 ^ t :=
            mul_le_mul_of_nonneg_left (zpow_le_zpow_right₀ one_le_two ht) (by positivity)
        _ ≤ r * 2 ^ t := mul_le_mul_of_nonneg_right hr (by positivity)
    have hvpos : 0 < v := by
      refine hv0.lt_of_ne ?_
      rintro rfl
      rw [nearest_zero] at hnearest
      exact (limit_pos.trans_le hge).ne hnearest
    rw [if_neg hge.not_gt]
    refine (unpack_pack_overflow s hpos ht).trans ?_
    cases s with
    | positive => rw [signed, if_neg hvpos.not_gt]
    | negative => rw [signed, if_pos (neg_neg_of_pos hvpos)]

/-- What is rounded stands for the nearest double, unless that is too large. -/
theorem rational?_round (s : Sign) {m : Nat} {e k : Int} {a : Accuracy} {v : Rat}
    (hv : Marks (.ofMantissaAndAccuracy m a) (v / 2 ^ e)) (hm : 2 ^ 52 ≤ m ∨ 0 < v ∧ e ≤ -1074)
    (hk : k ≤ 1024) (hlt : nearest v < 2 ^ k) :
    rational? (.ofModel (.pack (roundWithAccuracy Format.binary64 s m e a))) =
      some (signed s (nearest v)) := by
  have hv0 : 0 ≤ v := (exists_rounded s hv hm).1
  rw [signed_nearest]
  refine (roundsTo_round s hv hm).rational?_eq hk ?_
  rwa [abs_signed, abs_of_nonneg hv0]

end Keyspace.Binary64
