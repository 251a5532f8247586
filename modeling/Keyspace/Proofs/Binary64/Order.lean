import Keyspace.Proofs.Binary64.Quotients

/-!
Finite doubles are in the order of their rationals.

Doubles are compared by their signs, then by their exponents, then by their mantissas. That is the
order of their rationals because mantissas are as long as can be: a double with the lesser exponent
has a mantissa below `2 ^ 53`, the other one has one from `2 ^ 52` on, since only at the least of
all exponents are there shorter ones (`Canonical.lt_of_exponent_lt`).
-/

namespace Keyspace.Binary64

open Float.Model Float.Model.UnpackedFloat

section

variable {m m' : Nat} {e e' : Int}

/-- Of two positive doubles the one with the greater exponent is the greater. -/
theorem Canonical.lt_of_exponent_lt (h : Canonical m e) (h' : Canonical m' e') (he : e < e') :
    (m : Rat) * 2 ^ e < m' * 2 ^ e' := by
  have hfull : 2 ^ 52 ≤ m' := by
    rcases h'.full with hm' | hm'
    · exact hm'
    · have hleast := h.le_exponent
      omega
  calc (m : Rat) * 2 ^ e < 2 ^ 53 * 2 ^ e :=
        mul_lt_mul_of_pos_right (by exact_mod_cast h.lt) (by positivity)
    _ = 2 ^ 52 * 2 ^ (e + 1) := by rw [zpow_add_one₀ two_ne_zero]; ring
    _ ≤ 2 ^ 52 * 2 ^ e' :=
        mul_le_mul_of_nonneg_left (zpow_le_zpow_right₀ one_le_two (by omega)) (by positivity)
    _ ≤ m' * 2 ^ e' := mul_le_mul_of_nonneg_right (by exact_mod_cast hfull) (by positivity)

/-- Positive doubles are in the order of their exponents, and with equal exponents in that of their
    mantissas. -/
theorem Canonical.isLE_compare_iff (h : Canonical m e) (h' : Canonical m' e') :
    ((compare e e').then (compare m m')).isLE ↔ (m : Rat) * 2 ^ e ≤ m' * 2 ^ e' := by
  rcases lt_trichotomy e e' with he | rfl | he
  · rw [compare_lt_iff_lt.2 he]
    simp [Ordering.then, (h.lt_of_exponent_lt h' he).le]
  · have hpos : (0 : Rat) < 2 ^ e := by positivity
    simp [Ordering.then, mul_le_mul_iff_left₀ hpos, Std.isLE_compare]
  · rw [compare_gt_iff_gt.2 he]
    simp [Ordering.then, h'.lt_of_exponent_lt h he]

end

theorem le_iff_unpack {x y : Float} : x ≤ y ↔ x.toModel.unpack.le y.toModel.unpack := by
  change decide (x.toModel.unpack.le y.toModel.unpack = true) = true ↔ _
  rw [decide_eq_true_iff]

/-- One finite double is at most another exactly if its rational is. -/
theorem le_iff_of_rational? {x y : Float} {p q : Rat} (hx : rational? x = some p)
    (hy : rational? y = some q) : x ≤ y ↔ p ≤ q := by
  rw [le_iff_unpack, UnpackedFloat.le]
  rcases unpack_of_rational? hx with ⟨s, hu, rfl⟩ | ⟨s, m, e, hm, hu, hc, rfl⟩
  · rcases unpack_of_rational? hy with ⟨t, hv, rfl⟩ | ⟨t, m', e', hm', hv, _, rfl⟩
    · simp [hu, hv, UnpackedFloat.compare]
    · have hpos : (0 : Rat) < m' * 2 ^ e' := by positivity
      cases t with
      | positive => simp [hu, hv, UnpackedFloat.compare, signed, hpos.le]
      | negative => simp [hu, hv, UnpackedFloat.compare, signed, hpos]
  · have hpos : (0 : Rat) < m * 2 ^ e := by positivity
    rcases unpack_of_rational? hy with ⟨t, hv, rfl⟩ | ⟨t, m', e', hm', hv, hc', rfl⟩
    · cases s with
      | positive => simp [hu, hv, UnpackedFloat.compare, signed, hpos]
      | negative => simp [hu, hv, UnpackedFloat.compare, signed, hpos.le]
    · have hpos' : (0 : Rat) < m' * 2 ^ e' := by positivity
      cases s with
      | positive =>
        cases t with
        | positive =>
          simp only [hu, hv, UnpackedFloat.compare, signed, Option.any_some]
          exact hc.isLE_compare_iff hc'
        | negative =>
          have hlt : -((m' : Rat) * 2 ^ e') < m * 2 ^ e := by linarith
          simp [hu, hv, UnpackedFloat.compare, signed, hlt]
      | negative =>
        cases t with
        | positive =>
          have hle : -((m : Rat) * 2 ^ e) ≤ m' * 2 ^ e' := by linarith
          simp [hu, hv, UnpackedFloat.compare, signed, hle]
        | negative =>
          simp only [hu, hv, UnpackedFloat.compare, signed, Option.any_some, Ordering.swap_then,
            ← Std.OrientedOrd.eq_swap, neg_le_neg_iff]
          exact hc'.isLE_compare_iff hc

end Keyspace.Binary64
