import Mathlib
import Keyspace.Binary64
import Keyspace.Decimal.Rounding

/-!
The double nearest to a rational, as a rational.

Around a rational the doubles are the multiples of one power of two, their last place: fifty-three
bits below the rational's first one, but never below `2 ^ -1074`. Rounding takes the rational to the
nearest of these multiples (`nearest`), so it keeps the order, and powers of two stay as they are:
what is at most a power of two is at most that power when it is rounded. How large a double can be
is not looked at here.
-/

namespace Keyspace.Decimal

/-! ### Rounding to an integer -/

theorem floor_le_roundHalfEven (q : Rat) : q.floor ≤ roundHalfEven q := by
  unfold roundHalfEven
  dsimp only
  split_ifs <;> omega

theorem roundHalfEven_le_floor_add_one (q : Rat) : roundHalfEven q ≤ q.floor + 1 := by
  unfold roundHalfEven
  dsimp only
  split_ifs <;> omega

theorem roundHalfEven_intCast (n : Int) : roundHalfEven n = n := by
  unfold roundHalfEven
  simp [Rat.floor_intCast]

theorem roundHalfEven_mono {p q : Rat} (h : p ≤ q) : roundHalfEven p ≤ roundHalfEven q := by
  have hfloor : p.floor ≤ q.floor := Rat.floor_monotone h
  rcases hfloor.lt_or_eq with hlt | heq
  · have hp := roundHalfEven_le_floor_add_one p
    have hq := floor_le_roundHalfEven q
    omega
  · unfold roundHalfEven
    dsimp only
    rw [heq]
    split_ifs <;> first | omega | linarith

theorem roundHalfEven_neg (q : Rat) : roundHalfEven (-q) = -roundHalfEven q := by
  by_cases hq : q = (q.floor : Rat)
  · rw [hq, ← Int.cast_neg, roundHalfEven_intCast, roundHalfEven_intCast]
  · have hle : (q.floor : Rat) ≤ q := Int.floor_le q
    have hlt : q < (q.floor : Rat) + 1 := Int.lt_floor_add_one q
    have hlt' : (q.floor : Rat) < q := lt_of_le_of_ne hle (Ne.symm hq)
    have hfloor : (-q).floor = -q.floor - 1 := by
      change ⌊-q⌋ = _
      rw [Int.floor_eq_iff]
      push_cast
      constructor <;> linarith
    unfold roundHalfEven
    rw [hfloor]
    push_cast
    split_ifs <;> first | omega | linarith

end Keyspace.Decimal

namespace Keyspace.Binary64

open Decimal (roundHalfEven)

/-- The exponent of the last place of the doubles around a rational. -/
def unitExponent (q : Rat) : Int := max (Int.log 2 |q| - 52) (-1074)

/-- The multiple of its last place that is nearest to a rational, of two the even one: the value of
    the nearest double, unless that is too large for one. -/
def nearest (q : Rat) : Rat := roundHalfEven (q / 2 ^ unitExponent q) * 2 ^ unitExponent q

theorem unitExponent_neg (q : Rat) : unitExponent (-q) = unitExponent q := by
  rw [unitExponent, unitExponent, abs_neg]

theorem unitExponent_of_le_of_lt {q : Rat} {k : Int} (hle : 2 ^ k ≤ |q|) (hlt : |q| < 2 ^ (k + 1)) :
    unitExponent q = max (k - 52) (-1074) := by
  have hpos : 0 < |q| := lt_of_lt_of_le (by positivity) hle
  have hk : k ≤ Int.log 2 |q| := (Int.zpow_le_iff_le_log (by decide) hpos).1 (by exact_mod_cast hle)
  have hk' : Int.log 2 |q| < k + 1 :=
    (Int.lt_zpow_iff_log_lt (by decide) hpos).1 (by exact_mod_cast hlt)
  rw [unitExponent, show Int.log 2 |q| = k by omega]

theorem unitExponent_mono {p q : Rat} (hp : p ≠ 0) (h : |p| ≤ |q|) :
    unitExponent p ≤ unitExponent q := by
  have hlog : Int.log 2 |p| ≤ Int.log 2 |q| := Int.log_mono_right (abs_pos.2 hp) h
  unfold unitExponent
  omega

/-- A rational has at most fifty-three bits before its last place. -/
theorem abs_lt_unit (q : Rat) : |q| < 2 ^ (unitExponent q + 53) := by
  have hlt := Int.lt_zpow_succ_log_self (b := 2) (by decide) |q|
  refine lt_of_lt_of_le (by exact_mod_cast hlt) (zpow_le_zpow_right₀ one_le_two ?_)
  unfold unitExponent
  omega

theorem nearest_neg (q : Rat) : nearest (-q) = -nearest q := by
  rw [nearest, nearest, unitExponent_neg, neg_div, Decimal.roundHalfEven_neg]
  push_cast
  rw [neg_mul]

/-- What is a multiple of its last place stays as it is. -/
theorem nearest_of_eq_mul {q : Rat} {n : Int} (h : q = n * 2 ^ unitExponent q) : nearest q = q := by
  have hdiv : q / 2 ^ unitExponent q = n := by
    rw [div_eq_iff (by positivity)]
    exact h
  rw [nearest, hdiv, Decimal.roundHalfEven_intCast]
  exact h.symm

theorem nearest_zero : nearest 0 = 0 := nearest_of_eq_mul (n := 0) (by simp)

theorem nearest_two_zpow {k : Int} (hk : -1074 ≤ k) : nearest (2 ^ k) = 2 ^ k := by
  have habs : |(2 : Rat) ^ k| = 2 ^ k := abs_of_pos (by positivity)
  have hunit : unitExponent (2 ^ k) = max (k - 52) (-1074) :=
    unitExponent_of_le_of_lt habs.ge (by
      rw [habs]
      exact zpow_lt_zpow_right₀ one_lt_two (by omega))
  refine nearest_of_eq_mul (n := 2 ^ (k - unitExponent (2 ^ k)).toNat) ?_
  push_cast
  rw [← zpow_natCast, Int.toNat_of_nonneg (by omega), ← zpow_add₀ two_ne_zero, Int.sub_add_cancel]

theorem nearest_nonneg {q : Rat} (hq : 0 ≤ q) : 0 ≤ nearest q := by
  have h : (0 : Int) ≤ roundHalfEven (q / 2 ^ unitExponent q) := by
    have := Decimal.roundHalfEven_mono (p := ((0 : Int) : Rat)) (q := q / 2 ^ unitExponent q)
      (by push_cast; positivity)
    rwa [Decimal.roundHalfEven_intCast] at this
  exact mul_nonneg (by exact_mod_cast h) (by positivity)

theorem nearest_le_unit {q : Rat} (hq : 0 ≤ q) : nearest q ≤ 2 ^ (unitExponent q + 53) := by
  have h : roundHalfEven (q / 2 ^ unitExponent q) ≤ 2 ^ 53 := by
    have hle : q / 2 ^ unitExponent q ≤ ((2 ^ 53 : Int) : Rat) := by
      rw [div_le_iff₀ (by positivity)]
      have hlt := abs_lt_unit q
      rw [abs_of_nonneg hq, zpow_add₀ two_ne_zero] at hlt
      push_cast
      rw [mul_comm]
      exact hlt.le
    exact (Decimal.roundHalfEven_mono hle).trans_eq (Decimal.roundHalfEven_intCast _)
  have h' : (roundHalfEven (q / 2 ^ unitExponent q) : Rat) ≤ 2 ^ (53 : Int) := by exact_mod_cast h
  rw [nearest, add_comm, zpow_add₀ two_ne_zero]
  exact mul_le_mul_of_nonneg_right h' (by positivity)

/-- Above the least last place a rational has all of its fifty-three bits. -/
theorem unit_le_nearest {q : Rat} (hq : 0 < q) (hu : -1074 < unitExponent q) :
    2 ^ (unitExponent q + 52) ≤ nearest q := by
  have hlog : (2 : Rat) ^ (unitExponent q + 52) ≤ q := by
    have hle := Int.zpow_log_le_self (b := 2) (by decide) (abs_pos.2 hq.ne')
    rw [abs_of_pos hq] at hle
    rw [show unitExponent q + 52 = Int.log 2 q by
      unfold unitExponent at hu ⊢
      rw [abs_of_pos hq] at hu ⊢
      omega]
    exact_mod_cast hle
  have h : 2 ^ 52 ≤ roundHalfEven (q / 2 ^ unitExponent q) := by
    have hle : ((2 ^ 52 : Int) : Rat) ≤ q / 2 ^ unitExponent q := by
      rw [le_div_iff₀ (by positivity)]
      rw [zpow_add₀ two_ne_zero] at hlog
      push_cast
      rw [mul_comm]
      exact hlog
    exact (Decimal.roundHalfEven_intCast _).symm.trans_le (Decimal.roundHalfEven_mono hle)
  have h' : (2 : Rat) ^ (52 : Int) ≤ roundHalfEven (q / 2 ^ unitExponent q) := by exact_mod_cast h
  rw [nearest, add_comm, zpow_add₀ two_ne_zero]
  exact mul_le_mul_of_nonneg_right h' (by positivity)

theorem nearest_mono_of_nonneg {p q : Rat} (hp : 0 ≤ p) (h : p ≤ q) : nearest p ≤ nearest q := by
  rcases hp.eq_or_lt with rfl | hp'
  · rw [nearest_zero]
    exact nearest_nonneg h
  have hq : 0 < q := hp'.trans_le h
  have hunit : unitExponent p ≤ unitExponent q :=
    unitExponent_mono hp'.ne' (by rwa [abs_of_pos hp', abs_of_pos hq])
  rcases hunit.eq_or_lt with heq | hlt
  · rw [nearest, nearest, heq]
    have hdiv : p / 2 ^ unitExponent q ≤ q / 2 ^ unitExponent q :=
      div_le_div_of_nonneg_right h (by positivity)
    exact mul_le_mul_of_nonneg_right (by exact_mod_cast Decimal.roundHalfEven_mono hdiv)
      (by positivity)
  -- The lesser one ends where the units of the greater one begin.
  · have hmin : -1074 ≤ unitExponent p := le_max_right _ _
    calc nearest p ≤ 2 ^ (unitExponent p + 53) := nearest_le_unit hp
      _ ≤ 2 ^ (unitExponent q + 52) := zpow_le_zpow_right₀ one_le_two (by omega)
      _ ≤ nearest q := unit_le_nearest hq (by omega)

/-- Rounding keeps the order. -/
theorem nearest_mono {p q : Rat} (h : p ≤ q) : nearest p ≤ nearest q := by
  rcases le_total 0 p with hp | hp
  · exact nearest_mono_of_nonneg hp h
  rcases le_total 0 q with hq | hq
  · have hneg := nearest_nonneg (neg_nonneg.2 hp)
    rw [nearest_neg] at hneg
    exact (neg_nonneg.1 hneg).trans (nearest_nonneg hq)
  · have hneg := nearest_mono_of_nonneg (neg_nonneg.2 hq) (neg_le_neg h)
    rw [nearest_neg, nearest_neg] at hneg
    exact neg_le_neg_iff.1 hneg

theorem abs_nearest (q : Rat) : |nearest q| = nearest |q| := by
  rcases le_total 0 q with hq | hq
  · rw [abs_of_nonneg hq, abs_of_nonneg (nearest_nonneg hq)]
  · have hneg := nearest_nonneg (neg_nonneg.2 hq)
    rw [abs_of_nonpos hq, nearest_neg, abs_of_nonpos]
    rw [nearest_neg] at hneg
    exact neg_nonneg.1 hneg

/-- No rational is rounded past a power of two. -/
theorem abs_nearest_le {q : Rat} {k : Int} (hk : -1074 ≤ k) (h : |q| ≤ 2 ^ k) :
    |nearest q| ≤ 2 ^ k := by
  rw [abs_nearest]
  exact (nearest_mono h).trans_eq (nearest_two_zpow hk)

theorem le_nearest {q : Rat} {k : Int} (hk : -1074 ≤ k) (h : 2 ^ k ≤ q) : 2 ^ k ≤ nearest q :=
  (nearest_two_zpow hk).symm.trans_le (nearest_mono h)

/-- What is added to a power of two is lost if it is small enough. -/
theorem nearest_le_of_le_add {q : Rat} {k : Int} (hk : -1022 ≤ k) (h : q ≤ 2 ^ k + 2 ^ (k - 54)) :
    nearest q ≤ 2 ^ k := by
  refine (nearest_mono h).trans_eq ?_
  have hsmall : (2 : Rat) ^ (k - 54) < 2 ^ k := zpow_lt_zpow_right₀ one_lt_two (by omega)
  have hpos : (0 : Rat) < 2 ^ (k - 54) := by positivity
  have habs : |(2 : Rat) ^ k + 2 ^ (k - 54)| = 2 ^ k + 2 ^ (k - 54) := abs_of_pos (by positivity)
  have hunit : unitExponent (2 ^ k + 2 ^ (k - 54)) = k - 52 := by
    rw [unitExponent_of_le_of_lt (k := k) (by rw [habs]; linarith)
      (by rw [habs, zpow_add_one₀ two_ne_zero]; linarith)]
    omega
  have hdiv : ((2 : Rat) ^ k + 2 ^ (k - 54)) / 2 ^ (k - 52) = 2 ^ 52 + 1 / 4 := by
    rw [add_div, ← zpow_sub₀ two_ne_zero, ← zpow_sub₀ two_ne_zero,
      show k - (k - 52) = 52 by ring, show k - 54 - (k - 52) = -2 by ring]
    norm_num
  have hround : roundHalfEven (2 ^ 52 + 1 / 4) = 2 ^ 52 := by decide +kernel
  have hpow : ((2 ^ 52 : Int) : Rat) = 2 ^ (52 : Int) := by norm_num
  rw [nearest, hunit, hdiv, hround, hpow, ← zpow_add₀ two_ne_zero, add_sub_cancel]

end Keyspace.Binary64
