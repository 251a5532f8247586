import Keyspace.Proofs.Binary64.Order

/-!
Products by a double that is not negative keep the order.

What a comparison with integers tells of a double is which of them exceed it. Two rationals are
rounded in their order, also where one or both of them are rounded to infinities, so fewer integers
exceed the double of the greater one (`exceeds_of_roundsTo`). A product is the product of rationals
rounded once, or one of the factors is infinite; then it is infinite with the sign of the product or
not a number (`exceeds_mul_mono`).

    a * x    not a number    -infinity    nearest (a * x)    infinity
    exceeded by      none          all        those above        none
-/

namespace Keyspace.Binary64

open Float.Model Float.Model.UnpackedFloat

/-! ### What exceeds a double -/

theorem exceeds_of_rational? {x : Float} {q : Rat} (h : rational? x = some q) (n : Int) :
    exceeds n x ↔ q < n := by
  rw [exceeds, h]
  exact decide_eq_true_iff

theorem exceeds_of_infinity {x : Float} {s : Sign} (h : x.toModel.unpack = .infinity s) (n : Int) :
    exceeds n x ↔ s = .negative := by
  have hinf : x.isInf = true := by
    change x.toModel.unpack.isInf = true
    rw [h]
    rfl
  rw [exceeds, rational?_of_isInf hinf, hinf, isNegative, h]
  cases s <;> simp

theorem not_exceeds_of_notANumber {x : Float} (h : x.toModel.unpack = .notANumber) (n : Int) :
    ¬ exceeds n x := by
  have hnan : x.isNaN = true := by
    change x.toModel.unpack.isNaN = true
    rw [h]
    rfl
  rw [exceeds, rational?_of_isNaN hnan, isInf_of_isNaN hnan]
  simp

/-- A greater integer exceeds as much. -/
theorem exceeds_mono {x : Float} {m n : Int} (hmn : m ≤ n) (h : exceeds m x) : exceeds n x := by
  unfold exceeds at h ⊢
  cases hq : rational? x with
  | none =>
    rw [hq] at h
    exact h
  | some q =>
    rw [hq] at h
    have hlt : q < (m : Rat) := of_decide_eq_true h
    have hle : (m : Rat) ≤ n := by exact_mod_cast hmn
    exact decide_eq_true (hlt.trans_le hle)

/-- Rationals are rounded in their order. -/
theorem exceeds_of_roundsTo {p q : Rat} {x y : Float} (hx : RoundsTo p x) (hy : RoundsTo q y)
    (hpq : p ≤ q) {n : Int} (h : exceeds n y) : exceeds n x := by
  unfold RoundsTo at hx hy
  split at hy
  · rw [exceeds_of_rational? hy] at h
    split at hx
    · rw [exceeds_of_rational? hx]
      exact (nearest_mono hpq).trans_lt h
    -- Only the lesser of the two is too large, so it is negative.
    · next hq hp =>
      have hneg : p < 0 := by
        by_contra hp0
        have habs : |p| ≤ |q| := abs_le_abs_of_nonneg (not_lt.1 hp0) hpq
        exact hp ((nearest_mono habs).trans_lt hq)
      rw [exceeds_of_infinity hx, if_pos hneg]
  · next hq =>
    have hneg : q < 0 := by
      by_contra hq0
      rw [exceeds_of_infinity hy, if_neg hq0] at h
      cases h
    have habs : |q| ≤ |p| := by
      rw [abs_of_neg hneg, abs_of_neg (hpq.trans_lt hneg)]
      exact neg_le_neg hpq
    have hp : ¬ nearest |p| < limit := fun hp => hq ((nearest_mono habs).trans_lt hp)
    rw [if_neg hp] at hx
    rw [exceeds_of_infinity hx, if_pos (hpq.trans_lt hneg)]

/-! ### Infinite factors -/

theorem unpack_pack_infinity (s : Sign) :
    (Float.Model.pack (.infinity s)).unpack = .infinity s := by
  cases s <;> rfl

theorem unpack_pack_notANumber : (Float.Model.pack .notANumber).unpack = .notANumber := by
  rfl

theorem unpack_mul (x y : Float) : (x * y).toModel.unpack =
    (Float.Model.pack (mul Format.binary64 x.toModel.unpack y.toModel.unpack)).unpack :=
  rfl

section

variable {a x : Float} {q : Rat} {s : Sign}

theorem unpack_zero_mul_infinity (ha : rational? a = some 0)
    (hx : x.toModel.unpack = .infinity s) : (a * x).toModel.unpack = .notANumber := by
  rcases unpack_of_rational? ha with ⟨t, ht, _⟩ | ⟨t, m, e, hm, _, _, h0⟩
  · rw [unpack_mul, ht, hx]
    exact unpack_pack_notANumber
  · have hpos : 0 < (m : Rat) * 2 ^ e := by positivity
    cases t <;> rw [signed] at h0 <;> linarith

/-- A positive double times an infinity is the infinity. -/
theorem unpack_mul_infinity (ha : rational? a = some q) (hq : 0 < q)
    (hx : x.toModel.unpack = .infinity s) : (a * x).toModel.unpack = .infinity s := by
  rcases unpack_of_rational? ha with ⟨_, _, rfl⟩ | ⟨t, m, e, hm, ht, _, rfl⟩
  · exact absurd hq (lt_irrefl 0)
  have hpos : 0 < (m : Rat) * 2 ^ e := by positivity
  cases t with
  | positive =>
    rw [unpack_mul, ht, hx]
    cases s
    · exact unpack_pack_infinity .negative
    · exact unpack_pack_infinity .positive
  | negative =>
    rw [signed] at hq
    linarith

/-- Infinity times a finite double is infinite with the double's sign, if that is not zero. -/
theorem unpack_infinity_mul (ha : a.toModel.unpack = .infinity .positive)
    (hx : rational? x = some q) :
    (a * x).toModel.unpack = if q = 0 then .notANumber
      else .infinity (if q < 0 then .negative else .positive) := by
  rcases unpack_of_rational? hx with ⟨t, ht, rfl⟩ | ⟨t, m, e, hm, ht, _, rfl⟩
  · rw [if_pos rfl, unpack_mul, ha, ht]
    exact unpack_pack_notANumber
  have hpos : 0 < (m : Rat) * 2 ^ e := by positivity
  rw [unpack_mul, ha, ht]
  cases t with
  | positive =>
    rw [signed, if_neg hpos.ne', if_neg hpos.not_gt]
    exact unpack_pack_infinity .positive
  | negative =>
    rw [signed, if_neg (neg_ne_zero.2 hpos.ne'), if_pos (neg_neg_of_pos hpos)]
    exact unpack_pack_infinity .negative

theorem unpack_infinity_mul_infinity (ha : a.toModel.unpack = .infinity .positive)
    (hx : x.toModel.unpack = .infinity s) : (a * x).toModel.unpack = .infinity s := by
  rw [unpack_mul, ha, hx]
  cases s
  · exact unpack_pack_infinity .negative
  · exact unpack_pack_infinity .positive

end

/-! ### The order of products -/

/-- Doubles that are in order are finite, or one of them is at an end of the order. -/
theorem le_cases {x y : Float} (h : x ≤ y) :
    (∃ p q, rational? x = some p ∧ rational? y = some q ∧ p ≤ q) ∨
      x.toModel.unpack = .infinity .negative ∨ y.toModel.unpack = .infinity .positive := by
  have hle := le_iff_unpack.1 h
  rcases rational_or_isInf_or_isNaN x with ⟨p, hp⟩ | hx | hx
  · rcases rational_or_isInf_or_isNaN y with ⟨q, hq⟩ | hy | hy
    · exact Or.inl ⟨p, q, hp, hq, (le_iff_of_rational? hp hq).1 h⟩
    · obtain ⟨s, hy⟩ := unpack_of_isInf hy
      cases s with
      | positive => exact Or.inr (Or.inr hy)
      | negative =>
        rcases unpack_of_rational? hp with ⟨_, hx, _⟩ | ⟨_, _, _, _, hx, _, _⟩
        all_goals
          rw [hx, hy] at hle
          cases hle
    · rw [unpack_of_isNaN hy] at hle
      rcases unpack_of_rational? hp with ⟨_, hx, _⟩ | ⟨_, _, _, _, hx, _, _⟩
      all_goals
        rw [hx] at hle
        cases hle
  · obtain ⟨s, hx⟩ := unpack_of_isInf hx
    cases s with
    | negative => exact Or.inr (Or.inl hx)
    | positive =>
      rw [hx] at hle
      cases hy : y.toModel.unpack with
      | infinity s =>
        cases s with
        | positive => exact Or.inr (Or.inr rfl)
        | negative =>
          rw [hy] at hle
          cases hle
      | _ =>
        rw [hy] at hle
        cases hle
  · rw [unpack_of_isNaN hx] at hle
    cases hle

theorem rational?_zero_literal : rational? 0.0 = some 0 := by
  decide +kernel

theorem le_cases_of_nonneg {a : Float} (ha : 0.0 ≤ a) :
    (∃ r, rational? a = some r ∧ 0 ≤ r) ∨ a.toModel.unpack = .infinity .positive := by
  rcases le_cases ha with ⟨p, r, hp, hr, hle⟩ | hzero | hinf
  · have hp0 : p = 0 := Option.some.inj (hp.symm.trans rational?_zero_literal)
    rw [hp0] at hle
    exact Or.inl ⟨r, hr, hle⟩
  · have hfinite : (0.0 : Float).toModel.unpack = .zero .positive := by rfl
    rw [hfinite] at hzero
    cases hzero
  · exact Or.inr hinf

/-- A greater factor makes no integer exceed the product that did not, if the other factor is not
    negative and the product with the lesser one is a number. -/
theorem exceeds_mul_mono {a x y : Float} (ha : 0.0 ≤ a) (hxy : x ≤ y)
    (hx : (a * x).isNaN = false) {n : Int} (h : exceeds n (a * y)) : exceeds n (a * x) := by
  have hnumber : (a * x).toModel.unpack ≠ .notANumber := by
    intro hnan
    change (a * x).toModel.unpack.isNaN = false at hx
    rw [hnan] at hx
    cases hx
  rcases le_cases_of_nonneg ha with ⟨r, hr, hr0⟩ | hinf
  · rcases le_cases hxy with ⟨p, q, hp, hq, hpq⟩ | hx | hy
    · exact exceeds_of_roundsTo (roundsTo_mul hr hp) (roundsTo_mul hr hq)
        (mul_le_mul_of_nonneg_left hpq hr0) h
    · rcases hr0.eq_or_lt with rfl | hpos
      · exact absurd (unpack_zero_mul_infinity hr hx) hnumber
      · exact (exceeds_of_infinity (unpack_mul_infinity hr hpos hx) n).2 rfl
    · rcases hr0.eq_or_lt with rfl | hpos
      · exact absurd h (not_exceeds_of_notANumber (unpack_zero_mul_infinity hr hy) n)
      · cases (exceeds_of_infinity (unpack_mul_infinity hr hpos hy) n).1 h
  · rcases le_cases hxy with ⟨p, q, hp, hq, hpq⟩ | hx | hy
    · have hproduct := unpack_infinity_mul hinf hq
      have hq0 : q < 0 := by
        by_contra hq0
        rw [if_neg hq0] at hproduct
        split at hproduct
        · exact not_exceeds_of_notANumber hproduct n h
        · cases (exceeds_of_infinity hproduct n).1 h
      have hp0 : p < 0 := hpq.trans_lt hq0
      have hproduct' := unpack_infinity_mul hinf hp
      rw [if_neg hp0.ne, if_pos hp0] at hproduct'
      exact (exceeds_of_infinity hproduct' n).2 rfl
    · exact (exceeds_of_infinity (unpack_infinity_mul_infinity hinf hx) n).2 rfl
    · cases (exceeds_of_infinity (unpack_infinity_mul_infinity hinf hy) n).1 h

/-- What a rational that is not negative is rounded to is not negative. -/
theorem nonneg_of_roundsTo {q : Rat} {x : Float} (hq : 0 ≤ q) (h : RoundsTo q x) : 0.0 ≤ x := by
  unfold RoundsTo at h
  split at h
  · exact (le_iff_of_rational? rational?_zero_literal h).2 (nearest_nonneg hq)
  · rw [if_neg hq.not_gt] at h
    rw [le_iff_unpack, h]
    rfl

end Keyspace.Binary64
