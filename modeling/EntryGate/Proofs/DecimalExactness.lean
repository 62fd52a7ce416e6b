import EntryGate.Proofs.DecimalRounding
import EntryGate.Proofs.DecimalValue
import Mathlib.Algebra.Order.Field.Basic
import Mathlib.Algebra.Order.Field.Rat
import Mathlib.Tactic.FieldSimp
import Mathlib.Tactic.Linarith
import Mathlib.Tactic.Ring

/-!
# Operations whose result is a decimal

An operation on decimals rounds where its exact result has more digits than fit.  If the exact result
is the value of some decimal, nothing is lost: the operation returns a decimal of that value, though
perhaps one of another scale.

* `Decimal.magnitude` is the value of a decimal without its sign, which is what rounding works on;
* `Decimal.fit_of_magnitude` says that a number that some decimal has as its magnitude is not rounded;
* `Decimal.add_of_value`, `Decimal.sub_of_value` and `Decimal.mul_of_value` say it of sums, differences
  and products;
* `Decimal.exists_value` gives a decimal for every number of at most 96 bits and 28 fraction digits.
-/

namespace EntryGate
namespace Decimal

/-! ## Magnitudes -/

theorem cast_power (n : Nat) : ((power 10 n : Nat) : ℚ) = 10 ^ n :=
  Nat.cast_pow 10 n

/-- The value without its sign. -/
def magnitude (a : Decimal) : ℚ :=
  a.digits / 10 ^ a.scale

/-- A sign as a factor. -/
def signFactor (negative : Bool) : ℚ :=
  if negative then -1 else 1

theorem magnitude_nonneg (a : Decimal) : 0 ≤ a.magnitude :=
  div_nonneg (Nat.cast_nonneg _) (pow_nonneg (by norm_num) _)

theorem abs_signFactor (negative : Bool) : |signFactor negative| = 1 := by
  cases negative <;> simp [signFactor]

/-- A number is its distance from zero with its sign. -/
theorem signFactor_mul_natAbs (n : Int) :
    signFactor (decide (n < 0)) * (n.natAbs : ℚ) = n := by
  rw [Nat.cast_natAbs, Int.cast_abs]
  by_cases h : n < 0
  · have hcast : (n : ℚ) < 0 := Int.cast_lt_zero.2 h
    rw [decide_eq_true h, signFactor, if_pos rfl, abs_of_neg hcast]
    ring
  · have hcast : (0 : ℚ) ≤ n := Int.cast_nonneg (Int.not_lt.1 h)
    rw [decide_eq_false h, signFactor, if_neg Bool.false_ne_true, abs_of_nonneg hcast, one_mul]

/-- The value at any scale that is fine enough. -/
theorem value_eq_coeffAt (a : Decimal) {s : Nat} (ha : a.scale ≤ s) (hs : s ≤ 28) :
    a.value = a.coeffAt s / 10 ^ s := by
  have hsplit : (10 : ℚ) ^ 28 = 10 ^ (28 - s) * 10 ^ s := by
    rw [← pow_add, Nat.sub_add_cancel hs]
  have hfine : (10 : ℚ) ^ (28 - s) ≠ 0 := pow_ne_zero _ (by norm_num)
  rw [value, units_eq_coeffAt a ha hs, Int.cast_mul, Int.cast_natCast, cast_power, cast_power, hsplit,
    mul_comm ((a.coeffAt s : ℚ)), mul_div_mul_left _ _ hfine]

theorem coeff_eq_signFactor_mul (a : Decimal) :
    (a.coeff : ℚ) = signFactor a.negative * a.digits := by
  cases h : a.negative <;> simp [coeff, signFactor, h]

theorem value_eq_coeff (a : Decimal) : a.value = a.coeff / 10 ^ a.scale := by
  have hcoeff : a.coeffAt a.scale = a.coeff := by
    rw [coeffAt, Nat.sub_self, power_zero, Nat.cast_one, mul_one]
  rw [value_eq_coeffAt a le_rfl a.scale_le, hcoeff]

theorem value_eq_signFactor_mul (a : Decimal) :
    a.value = signFactor a.negative * a.magnitude := by
  rw [value_eq_coeff, coeff_eq_signFactor_mul, magnitude, mul_div_assoc]

theorem abs_value (a : Decimal) : |a.value| = a.magnitude := by
  rw [value_eq_signFactor_mul, abs_mul, abs_signFactor, one_mul, abs_of_nonneg a.magnitude_nonneg]

theorem magnitude_eq_zero_iff {a : Decimal} : a.magnitude = 0 ↔ a.digits = 0 := by
  have hpower : (10 : ℚ) ^ a.scale ≠ 0 := pow_ne_zero _ (by norm_num)
  rw [magnitude, div_eq_zero_iff, or_iff_left hpower, Nat.cast_eq_zero]

theorem value_of_digits_zero {a : Decimal} (h : a.digits = 0) : a.value = 0 := by
  rw [value_eq_signFactor_mul, magnitude_eq_zero_iff.2 h, mul_zero]

theorem value_unsignedZero (a : Decimal) : a.unsignedZero.value = a.value := by
  rw [value, value, units_unsignedZero]

/-- The order of decimals is that of their values. -/
theorem le_iff_value {a b : Decimal} : a ≤ b ↔ a.value ≤ b.value := by
  have hpos : (0 : ℚ) < power 10 28 := by
    rw [cast_power]
    positivity
  rw [le_iff_units, value, value, div_le_div_iff_of_pos_right hpos, Int.cast_le]

theorem lt_iff_value {a b : Decimal} : a < b ↔ a.value < b.value := by
  have hpos : (0 : ℚ) < power 10 28 := by
    rw [cast_power]
    positivity
  rw [lt_iff_units, value, value, div_lt_div_iff_of_pos_right hpos, Int.cast_lt]

theorem pos_iff_value {a : Decimal} : zero < a ↔ 0 < a.value := by
  rw [lt_iff_value, value_zero]

/-- Two magnitudes are compared by giving each the scale of the other. -/
theorem div_power_eq_iff {m n s t : Nat} :
    (m : ℚ) / 10 ^ s = n / 10 ^ t ↔ m * power 10 t = n * power 10 s := by
  have hs : (10 : ℚ) ^ s ≠ 0 := pow_ne_zero _ (by norm_num)
  have ht : (10 : ℚ) ^ t ≠ 0 := pow_ne_zero _ (by norm_num)
  rw [div_eq_div_iff hs ht, ← cast_power, ← cast_power]
  exact_mod_cast Iff.rfl

/-- Every number of 96 bits at a scale of at most 28 is the value of a decimal. -/
theorem exists_value {n : Int} {s : Nat} (hn : n.natAbs < power 2 96) (hs : s ≤ 28) :
    ∃ r : Decimal, r.value = n / 10 ^ s := by
  refine ⟨⟨decide (n < 0), n.natAbs, s, hn, hs⟩, ?_⟩
  rw [value_eq_signFactor_mul, magnitude, ← mul_div_assoc, signFactor_mul_natAbs]

/-! ## Rounding what needs no rounding -/

theorem ofDigits_of_lt {n s : Nat} (hn : n < power 2 96) (hs : s ≤ 28) (fault : Fault)
    (negative : Bool) : ofDigits fault negative n s = .ok ⟨negative, n, s, hn, hs⟩ := by
  rw [ofDigits, ofDigits?, dif_pos ⟨hn, hs⟩]

theorem divHalfEven_mul_self (n : Nat) {d : Nat} (hd : 0 < d) : divHalfEven (n * d) d = n := by
  have hscaled := divHalfEven_mul_right n 1 hd
  rw [Nat.one_mul, divHalfEven_one] at hscaled
  exact hscaled

/-- If giving up `j` digits is enough, no more than that are given up. -/
theorem exists_dropCount? {n scale j : Nat} (hlow : scale - 28 ≤ j) (hhigh : j ≤ scale)
    (h : divHalfEven n (power 10 j) < power 2 96) :
    ∃ k, dropCount? n scale = some k ∧ scale - 28 ≤ k ∧ k ≤ j ∧
      divHalfEven n (power 10 k) < power 2 96 := by
  have hmem : j ∈ droppable scale := List.mem_range'_1.2 ⟨hlow, by omega⟩
  cases hdrop : dropCount? n scale with
  | none =>
    have hnone := List.find?_eq_none.1 hdrop j hmem
    exact absurd (decide_eq_true h) hnone
  | some k =>
    rw [dropCount?, droppable, List.find?_range'_eq_some] at hdrop
    obtain ⟨hfits, hrange, hleast⟩ := hdrop
    obtain ⟨hk, -⟩ := List.mem_range'_1.1 hrange
    refine ⟨k, rfl, hk, ?_, of_decide_eq_true hfits⟩
    -- a greater number of digits would not be the least that is enough
    rcases Nat.lt_or_ge j k with hlt | hge
    · have hfails := hleast j hlow hlt
      rw [decide_eq_true h] at hfails
      cases hfails
    · exact hge

/-- The digits of a decimal that are followed by zeros only are kept. -/
theorem fit_of_digits {n scale : Nat} {r : Decimal}
    (h : r.digits * power 10 scale = n * power 10 r.scale) (fault : Fault) (negative : Bool) :
    ∃ d, fit fault negative n scale = .ok d ∧ d.negative = negative ∧
      d.digits * power 10 scale = n * power 10 d.scale := by
  -- the zeros that may be given up, and what is in front of them
  obtain ⟨m, hm, hn⟩ : ∃ m, m < power 2 96 ∧ n = m * power 10 (scale - r.scale) := by
    rcases Nat.le_total r.scale scale with hle | hle
    · refine ⟨r.digits, r.digits_lt, ?_⟩
      have hpos : 0 < power 10 r.scale := power_pos (by decide) _
      refine Nat.eq_of_mul_eq_mul_right hpos ?_
      rw [← h, Nat.mul_assoc, ← power_add, Nat.sub_add_cancel hle]
    · refine ⟨n, ?_, ?_⟩
      · have hpos : 0 < power 10 scale := power_pos (by decide) _
        have hle : n * power 10 scale ≤ r.digits * power 10 scale := by
          obtain ⟨e, he⟩ := Nat.exists_eq_add_of_le hle
          rw [h, he, power_add, ← Nat.mul_assoc]
          exact Nat.le_mul_of_pos_right _ (power_pos (by decide) e)
        exact Nat.lt_of_le_of_lt (Nat.le_of_mul_le_mul_right hle hpos) r.digits_lt
      · rw [Nat.sub_eq_zero_of_le hle, power_zero, Nat.mul_one]
  have hr := r.scale_le
  have henough : divHalfEven n (power 10 (scale - r.scale)) < power 2 96 := by
    rw [hn, divHalfEven_mul_self m (power_pos (by decide) _)]
    exact hm
  obtain ⟨k, hdrop, hlow, hk, hfits⟩ :=
    exists_dropCount? (by omega) (Nat.sub_le scale r.scale) henough
  -- giving up zeros gives up nothing
  have hkeeps : n = divHalfEven n (power 10 k) * power 10 k := by
    obtain ⟨e, he⟩ := Nat.exists_eq_add_of_le hk
    have hsame : n = m * power 10 e * power 10 k := by
      rw [hn, he, Nat.add_comm k e, power_add, Nat.mul_assoc]
    rw [hsame, divHalfEven_mul_self _ (power_pos (by decide) _)]
  have hscale : scale - k ≤ 28 := by omega
  have hdigits := ofDigits_of_lt hfits hscale fault negative
  refine ⟨⟨negative, divHalfEven n (power 10 k), scale - k, hfits, hscale⟩, ?_, rfl, ?_⟩
  · delta fit
    rw [hdrop]
    exact hdigits
  · show divHalfEven n (power 10 k) * power 10 scale = n * power 10 (scale - k)
    have hsplit : power 10 scale = power 10 k * power 10 (scale - k) := by
      rw [← power_add]
      congr 1
      omega
    conv_rhs => rw [hkeeps]
    rw [hsplit, Nat.mul_assoc]

/-- A number that is the magnitude of a decimal is not rounded. -/
theorem fit_of_magnitude {n scale : Nat} {r : Decimal} (h : r.magnitude = n / 10 ^ scale)
    (fault : Fault) (negative : Bool) :
    ∃ d, fit fault negative n scale = .ok d ∧ d.negative = negative ∧
      d.magnitude = n / 10 ^ scale := by
  obtain ⟨d, hd, hsign, hdigits⟩ := fit_of_digits (div_power_eq_iff.1 h) fault negative
  exact ⟨d, hd, hsign, div_power_eq_iff.2 hdigits⟩

/-! ## Sums, differences and products -/

theorem sum_of_value {fault : Fault} {a b r : Decimal} (h : r.value = a.value + b.value) :
    ∃ c, sum fault a b = .ok c ∧ c.value = a.value + b.value := by
  have hs : max a.scale b.scale ≤ 28 := Nat.max_le.2 ⟨a.scale_le, b.scale_le⟩
  have hexact : a.value + b.value =
      ((a.coeffAt (max a.scale b.scale) + b.coeffAt (max a.scale b.scale) : Int) : ℚ) /
        10 ^ max a.scale b.scale := by
    rw [value_eq_coeffAt a (Nat.le_max_left _ _) hs, value_eq_coeffAt b (Nat.le_max_right _ _) hs,
      ← add_div, Int.cast_add]
  rw [hexact] at h ⊢
  simp only [sum]
  generalize a.coeffAt (max a.scale b.scale) + b.coeffAt (max a.scale b.scale) = n at h ⊢
  generalize max a.scale b.scale = s at h ⊢
  have hmagnitude : r.magnitude = n.natAbs / 10 ^ s := by
    have hpower : (0 : ℚ) ≤ 10 ^ s := by positivity
    rw [← abs_value, h, abs_div, abs_of_nonneg hpower, Nat.cast_natAbs, Int.cast_abs]
  obtain ⟨c, hc, hsign, hcmagnitude⟩ := fit_of_magnitude hmagnitude fault (decide (n < 0))
  refine ⟨c, hc, ?_⟩
  rw [value_eq_signFactor_mul, hsign, hcmagnitude, ← mul_div_assoc, signFactor_mul_natAbs]

/-- A sum that is a decimal is not rounded. -/
theorem add_of_value {a b r : Decimal} (h : r.value = a.value + b.value) :
    ∃ c, a.add b = .ok c ∧ c.value = a.value + b.value := by
  rw [add]
  by_cases ha : a.digits = 0
  · rw [if_pos ha]
    exact ⟨b, rfl, by rw [value_of_digits_zero ha, zero_add]⟩
  · rw [if_neg ha]
    by_cases hb : b.digits = 0
    · rw [if_pos hb]
      exact ⟨a, rfl, by rw [value_of_digits_zero hb, add_zero]⟩
    · rw [if_neg hb]
      exact sum_of_value h

/-- A difference that is a decimal is not rounded. -/
theorem sub_of_value {a b r : Decimal} (h : r.value = a.value - b.value) :
    ∃ c, a.sub b = .ok c ∧ c.value = a.value - b.value := by
  rw [sub]
  by_cases hb : b.digits = 0
  · rw [if_pos hb, value_of_digits_zero hb, sub_zero]
    by_cases ha : a.digits = 0
    · rw [if_pos ha]
      exact ⟨b, rfl, (value_of_digits_zero hb).trans (value_of_digits_zero ha).symm⟩
    · rw [if_neg ha]
      exact ⟨a, rfl, rfl⟩
  · rw [if_neg hb]
    by_cases ha : a.digits = 0
    · rw [if_pos ha]
      exact ⟨b.neg, rfl, by rw [value_neg, value_of_digits_zero ha, zero_sub]⟩
    · rw [if_neg ha]
      have hsum : r.value = a.value + b.neg.value := by
        rw [value_neg, h, sub_eq_add_neg]
      obtain ⟨c, hc, hvalue⟩ := sum_of_value hsum
      refine ⟨c, hc, ?_⟩
      rw [hvalue, value_neg, sub_eq_add_neg]

theorem signFactor_bne (s t : Bool) : signFactor (s != t) = signFactor s * signFactor t := by
  cases s <;> cases t <;> simp [signFactor]

/-- A product of two short factors with so many fraction digits is smaller than every decimal. -/
theorem scale_le_of_short {a b r : Decimal} (ha : a.isShort = true) (hb : b.isShort = true)
    (hne : r.magnitude ≠ 0) (h : r.magnitude = a.magnitude * b.magnitude) :
    a.scale + b.scale ≤ 47 := by
  by_contra hscale
  have hda : a.digits < power 2 32 := of_decide_eq_true ha
  have hdb : b.digits < power 2 32 := of_decide_eq_true hb
  have hproduct : r.digits * power 10 (a.scale + b.scale) = a.digits * b.digits * power 10 r.scale := by
    rw [← div_power_eq_iff, Nat.cast_mul, pow_add, mul_div_mul_comm]
    exact h
  have hpos : 0 < r.digits := Nat.pos_of_ne_zero fun hzero => hne (magnitude_eq_zero_iff.2 hzero)
  have hless : a.digits * b.digits * power 10 r.scale < power 10 48 := by
    have hmul : a.digits * b.digits ≤ power 2 32 * power 2 32 :=
      Nat.mul_le_mul (Nat.le_of_lt hda) (Nat.le_of_lt hdb)
    have hscales : power 10 r.scale ≤ power 10 28 := Nat.pow_le_pow_right (by decide) r.scale_le
    calc
      a.digits * b.digits * power 10 r.scale ≤ power 2 32 * power 2 32 * power 10 28 :=
        Nat.mul_le_mul hmul hscales
      _ < power 10 48 := by decide
  have hgreat : power 10 48 ≤ r.digits * power 10 (a.scale + b.scale) := by
    calc
      power 10 48 ≤ power 10 (a.scale + b.scale) := Nat.pow_le_pow_right (by decide) (by omega)
      _ ≤ r.digits * power 10 (a.scale + b.scale) := Nat.le_mul_of_pos_left _ hpos
  rw [hproduct] at hgreat
  exact absurd hless (Nat.not_lt.2 hgreat)

/-- A product that is a decimal is not rounded. -/
theorem mul_of_value {a b r : Decimal} (h : r.value = a.value * b.value) :
    ∃ c, a.mul b = .ok c ∧ c.value = a.value * b.value := by
  rw [mul]
  by_cases hzero : a.digits = 0 ∨ b.digits = 0
  · rw [if_pos hzero]
    refine ⟨zero, rfl, ?_⟩
    rcases hzero with ha | hb
    · rw [value_of_digits_zero ha, zero_mul, value_zero]
    · rw [value_of_digits_zero hb, mul_zero, value_zero]
  · rw [if_neg hzero]
    obtain ⟨ha, hb⟩ := not_or.1 hzero
    have hmagnitude : r.magnitude = a.magnitude * b.magnitude := by
      rw [← abs_value, h, abs_mul, abs_value, abs_value]
    have hne : r.magnitude ≠ 0 := by
      rw [hmagnitude]
      exact mul_ne_zero (mt magnitude_eq_zero_iff.1 ha) (mt magnitude_eq_zero_iff.1 hb)
    rw [if_neg fun hshort =>
      absurd hshort.2.2 (Nat.not_lt.2 (scale_le_of_short hshort.1 hshort.2.1 hne hmagnitude))]
    have hexact : a.magnitude * b.magnitude =
        ((a.digits * b.digits : Nat) : ℚ) / 10 ^ (a.scale + b.scale) := by
      rw [magnitude, magnitude, div_mul_div_comm, Nat.cast_mul, pow_add]
    obtain ⟨product, hproduct, hsign, hpmagnitude⟩ :=
      fit_of_magnitude (hmagnitude.trans hexact) .multiplicationOverflow (a.negative != b.negative)
    have hvalue : product.value = a.value * b.value := by
      rw [value_eq_signFactor_mul, hsign, hpmagnitude, ← hexact, signFactor_bne,
        value_eq_signFactor_mul a, value_eq_signFactor_mul b]
      ring
    rw [hproduct]
    refine ⟨_, rfl, ?_⟩
    split
    · rw [value_unsignedZero, hvalue]
    · exact hvalue

end Decimal
end EntryGate
