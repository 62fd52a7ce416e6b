import EntryGate.Proofs.DecimalQuotient
import Mathlib.Tactic.LinearCombination

/-!
# Rounding to ticks

A price is rounded to a tick size by dividing, rounding the quotient to a whole number and multiplying
again.  The quotient is rounded once before, to the digits that fit, so that in principle a number just
below a half could be taken for a half.  For prices and tick sizes of up to 24 digits it is not: a
quotient of two such numbers that is not a half is further from it than the first rounding moves it.

* `Decimal.IsNearest` is the nearest whole number, a half away from zero;
* `Decimal.isNearest_roundWhole` says that a decimal is rounded to it, and
  `Decimal.IsNearest.of_approximates` that the quotient may be rounded before;
* `Decimal.roundToTick_of_div` goes from the quotient to the multiple of the tick size;
* `Decimal.roundToTick_nearest` says what a price is rounded to, and what follows from it.
-/

namespace EntryGate
namespace Decimal

/-! ## Nearest whole numbers -/

/-- The whole number `n` is nearest to `x`; of two that are equally near it is the one further from
zero. -/
structure IsNearest (x : ℚ) (n : ℤ) : Prop where
  near : |x - n| ≤ 1 / 2
  away : |x - n| = 1 / 2 → |x| < |(n : ℚ)|

namespace IsNearest

variable {x y : ℚ} {m n : ℤ}

theorem of_int (n : ℤ) : IsNearest n n := by
  refine ⟨?_, ?_⟩
  · rw [sub_self, abs_zero]
    norm_num
  · intro h
    rw [sub_self, abs_zero] at h
    norm_num at h

theorem neg (h : IsNearest x n) : IsNearest (-x) (-n) := by
  have hdistance : |-x - ((-n : ℤ) : ℚ)| = |x - n| := by
    rw [Int.cast_neg, sub_neg_eq_add, neg_add_eq_sub, abs_sub_comm]
  refine ⟨?_, ?_⟩
  · rw [hdistance]
    exact h.near
  · intro hhalf
    rw [hdistance] at hhalf
    rw [abs_neg, Int.cast_neg, abs_neg]
    exact h.away hhalf

theorem signed (h : IsNearest x n) (negative : Bool) :
    ∃ k : ℤ, IsNearest (signFactor negative * x) k ∧ (k : ℚ) = signFactor negative * n := by
  cases negative with
  | false =>
    refine ⟨n, ?_, ?_⟩
    · simpa [signFactor] using h
    · simp [signFactor]
  | true =>
    refine ⟨-n, ?_, ?_⟩
    · simpa [signFactor] using h.neg
    · simp [signFactor]

/-- A half that is rounded down is negative, and one that is rounded up is positive. -/
theorem pos_of_half_up (h : IsNearest x n) (hhalf : x = n - 1 / 2) : 0 < x := by
  have haway : |x| < |(n : ℚ)| := by
    refine h.away ?_
    rw [hhalf, sub_sub_cancel_left, abs_neg]
    norm_num
  by_contra hneg
  -- a number that is not positive would be nearer to zero than a half below it
  have hn : (n : ℚ) ≤ 0 := by
    have hlt : n < 1 := by
      have hcast : (n : ℚ) < 1 := by linarith
      exact_mod_cast hcast
    exact_mod_cast Int.lt_add_one_iff.1 hlt
  rw [abs_of_nonpos (by linarith), abs_of_nonpos hn] at haway
  linarith

theorem neg_of_half_down (h : IsNearest x n) (hhalf : x = n + 1 / 2) : x < 0 := by
  have hpos := h.neg.pos_of_half_up (by rw [hhalf, Int.cast_neg]; ring)
  linarith

/-- Rounding keeps the order. -/
theorem mono (hx : IsNearest x m) (hy : IsNearest y n) (h : x ≤ y) : m ≤ n := by
  by_contra hgreater
  have hstep : (n : ℚ) + 1 ≤ m := by exact_mod_cast Int.not_le.1 hgreater
  obtain ⟨hxlow, hxhigh⟩ := abs_le.1 hx.near
  obtain ⟨hylow, hyhigh⟩ := abs_le.1 hy.near
  -- both numbers are the half between the two, and it cannot be rounded both ways
  have hpos : 0 < x := hx.pos_of_half_up (by linarith)
  have hneg : y < 0 := hy.neg_of_half_down (by linarith)
  linarith

theorem unique (hm : IsNearest x m) (hn : IsNearest x n) : m = n :=
  Int.le_antisymm (hm.mono hn le_rfl) (hn.mono hm le_rfl)

end IsNearest

/-- A quotient rounded to the nearest whole number, a half upwards. -/
theorem isNearest_divHalfUp (n : Nat) {d : Nat} (hd : 0 < d) :
    IsNearest (n / d) (divHalfUp n d : Nat) := by
  have hsplit := Nat.div_add_mod (2 * n + d) (2 * d)
  have hrest := Nat.mod_lt (2 * n + d) (Nat.mul_pos Nat.two_pos hd)
  have hlow : 2 * d * divHalfUp n d ≤ 2 * n + d := by
    rw [divHalfUp]
    omega
  have hhigh : 2 * n + d < 2 * d * divHalfUp n d + 2 * d := by
    rw [divHalfUp]
    omega
  have hdpos : (0 : ℚ) < d := Nat.cast_pos.2 hd
  have hlow' : (divHalfUp n d : ℚ) - 1 / 2 ≤ n / d := by
    have hcast : 2 * (d : ℚ) * divHalfUp n d ≤ 2 * n + d := by exact_mod_cast hlow
    rw [le_div_iff₀ hdpos]
    linarith
  have hhigh' : (n : ℚ) / d < divHalfUp n d + 1 / 2 := by
    have hcast : 2 * (n : ℚ) + d < 2 * d * divHalfUp n d + 2 * d := by exact_mod_cast hhigh
    rw [div_lt_iff₀ hdpos]
    linarith
  refine ⟨?_, ?_⟩
  · rw [Int.cast_natCast, abs_le]
    constructor <;> linarith
  · intro hhalf
    rw [Int.cast_natCast] at hhalf ⊢
    -- of the two halves only the one that is rounded up occurs
    have hup : (n : ℚ) / d = divHalfUp n d - 1 / 2 := by
      rcases abs_cases ((n : ℚ) / d - divHalfUp n d) with ⟨habs, -⟩ | ⟨habs, -⟩ <;> linarith
    have hnonneg : (0 : ℚ) ≤ n / d := by positivity
    rw [abs_of_nonneg hnonneg, abs_of_nonneg (Nat.cast_nonneg _)]
    linarith

theorem value_whole_signed (negative : Bool) {n : Nat} (h : n < power 2 96) :
    (whole negative n h).value = signFactor negative * n := by
  rw [value_eq_signFactor_mul, magnitude]
  show signFactor negative * ((n : ℚ) / 10 ^ 0) = _
  rw [pow_zero, div_one]

/-- A decimal is rounded to the nearest whole number. -/
theorem isNearest_roundWhole (a : Decimal) :
    ∃ n : ℤ, IsNearest a.value n ∧ a.roundWhole.value = n := by
  rw [roundWhole]
  by_cases hscale : a.scale = 0
  · rw [if_pos hscale]
    have hvalue : a.value = a.coeff := by
      rw [value_eq_coeff, hscale, pow_zero, div_one]
    rw [hvalue]
    exact ⟨a.coeff, IsNearest.of_int a.coeff, rfl⟩
  · rw [if_neg hscale, value_whole_signed, value_eq_signFactor_mul, magnitude, ← cast_power]
    have hpos : 0 < power 10 a.scale := power_pos (by decide) _
    obtain ⟨n, hn, hvalue⟩ := (isNearest_divHalfUp a.digits hpos).signed a.negative
    refine ⟨n, hn, ?_⟩
    rw [hvalue, Int.cast_natCast]

/-! ## Quotients that are rounded before -/

/-- A quotient of numbers of up to 25 digits is computed with so many digits that the first rounding
moves it by less than the distance from any other half. -/
theorem eleven_mul_lt_of_approximates {p t : ℤ} {q : ℚ} {s : Nat} (hp : |p| < 10 ^ 25) (ht : 0 < t)
    (ht' : t < 10 ^ 25) (h : Approximates q (p / t) s) : 11 * (t : ℚ) < 10 ^ s := by
  have htpos : (0 : ℚ) < t := Int.cast_pos.2 ht
  have hpcast : |(p : ℚ)| < 10 ^ 25 := by exact_mod_cast hp
  have htcast : (t : ℚ) < 10 ^ 25 := by exact_mod_cast ht'
  rcases h.most with hfull | hmost
  · rw [hfull]
    calc
      11 * (t : ℚ) < 11 * 10 ^ 25 := by linarith
      _ < 10 ^ 28 := by norm_num
  · rw [abs_div, abs_of_pos htpos, mul_div_assoc', le_div_iff₀ htpos,
      pow_succ (10 : ℚ) s] at hmost
    have hpower : (0 : ℚ) < 10 ^ s := by positivity
    have hless : (10 : ℚ) ^ s * 10 * |(p : ℚ)| < 10 ^ s * 10 * 10 ^ 25 :=
      mul_lt_mul_of_pos_left hpcast (by positivity)
    have hgreat : 11 * (t : ℚ) * 10 ^ 26 ≤ 2 ^ 96 * t := by
      have hconst : (11 : ℚ) * 10 ^ 26 ≤ 2 ^ 96 := by norm_num
      nlinarith
    have hall : 11 * (t : ℚ) * 10 ^ 26 < 10 ^ s * 10 ^ 26 := by
      calc
        11 * (t : ℚ) * 10 ^ 26 ≤ 2 ^ 96 * t := hgreat
        _ ≤ 10 ^ s * 10 * |(p : ℚ)| := hmost
        _ < 10 ^ s * 10 * 10 ^ 25 := hless
        _ = 10 ^ s * 10 ^ 26 := by ring
    exact lt_of_mul_lt_mul_right hall (by positivity)

/-- The distance of a quotient from a whole number, counted in halves of `1 / t`. -/
theorem abs_quotient_sub {p t n : ℤ} (ht : 0 < t) :
    |(p : ℚ) / t - n| = |((2 * p - 2 * n * t : ℤ) : ℚ)| / (2 * t) := by
  have htpos : (0 : ℚ) < t := Int.cast_pos.2 ht
  have hpos : (0 : ℚ) < 2 * t := by positivity
  have hform : (p : ℚ) / t - n = ((2 * p - 2 * n * t : ℤ) : ℚ) / (2 * t) := by
    push_cast
    field_simp
  rw [hform, abs_div, abs_of_pos hpos]

/-- The whole number nearest to a number less than `1 / (2 t)` away is nearest to a quotient by `t`
that is not a half.  For the distance of the quotient from a half is a multiple of that. -/
theorem IsNearest.of_close {p t n : ℤ} {q : ℚ} (ht : 0 < t) (hn : IsNearest q n)
    (hclose : |q - p / t| < 1 / (2 * t)) (hnohalf : ∀ k : ℤ, 2 * p ≠ k * t) :
    IsNearest (p / t) n := by
  have htpos : (0 : ℚ) < t := Int.cast_pos.2 ht
  have hpos : (0 : ℚ) < 2 * t := by positivity
  have hcount : |2 * p - 2 * n * t| < t + 1 := by
    have hdistance : |(p : ℚ) / t - n| < (t + 1) / (2 * t) := by
      calc
        |(p : ℚ) / t - n| ≤ |(p : ℚ) / t - q| + |q - n| := abs_sub_le _ _ _
        _ = |q - p / t| + |q - n| := by rw [abs_sub_comm]
        _ < 1 / (2 * t) + 1 / 2 := add_lt_add_of_lt_of_le hclose hn.near
        _ = (t + 1) / (2 * t) := by
          field_simp
          ring
    rw [abs_quotient_sub ht, div_lt_div_iff_of_pos_right hpos] at hdistance
    exact_mod_cast hdistance
  have hstrict : |2 * p - 2 * n * t| < t := by
    rcases (Int.lt_add_one_iff.1 hcount).lt_or_eq with hlt | heq
    · exact hlt
    · exfalso
      rcases abs_cases (2 * p - 2 * n * t) with ⟨habs, -⟩ | ⟨habs, -⟩
      · exact hnohalf (2 * n + 1) (by linarith)
      · exact hnohalf (2 * n - 1) (by linarith)
  have hnear : |(p : ℚ) / t - n| < 1 / 2 := by
    have hcast : |((2 * p - 2 * n * t : ℤ) : ℚ)| < t := by exact_mod_cast hstrict
    rw [abs_quotient_sub ht, div_lt_div_iff₀ hpos two_pos]
    linarith
  refine ⟨hnear.le, ?_⟩
  intro hhalf
  exact absurd hhalf hnear.ne

/-- The whole number nearest to a rounded quotient is nearest to the exact one. -/
theorem IsNearest.of_approximates {p t n : ℤ} {q : ℚ} {s : Nat} (hp : |p| < 10 ^ 25) (ht : 0 < t)
    (ht' : t < 10 ^ 25) (h : Approximates q (p / t) s) (hn : IsNearest q n) :
    IsNearest (p / t) n := by
  have htpos : (0 : ℚ) < t := Int.cast_pos.2 ht
  have hfine := eleven_mul_lt_of_approximates hp ht ht' h
  have hclose : |q - p / t| < 1 / (2 * t) := by
    calc
      |q - p / t| ≤ 11 / 2 / 10 ^ s := h.close
      _ < 1 / (2 * t) := by
        rw [div_div, div_lt_div_iff₀ (by positivity) (by positivity)]
        linarith
  refine hn.of_close ht hclose ?_
  -- a half has a place among the digits, and what is rounded has none
  intro k hk
  have hspos : s ≠ 0 := by
    rintro rfl
    have hone : (1 : ℚ) ≤ t := by exact_mod_cast ht
    rw [pow_zero] at hfine
    linarith
  obtain ⟨e, rfl⟩ := Nat.exists_eq_succ_of_ne_zero hspos
  refine h.rest (5 * k * 10 ^ e) ?_
  have hkcast : 2 * (p : ℚ) = k * t := by exact_mod_cast hk
  rw [div_mul_eq_mul_div, div_eq_iff htpos.ne', pow_succ]
  push_cast
  linear_combination 5 * 10 ^ e * hkcast

/-! ## Multiples of a tick size -/

/-- What is rounded to ticks, in terms of the quotient. -/
theorem roundToTick_of_div {price tick q r : Decimal} {n : ℤ} (htick : zero < tick)
    (hq : price.div tick = .ok q) (hn : IsNearest q.value n) (hr : r.value = n * tick.value) :
    ∃ c, price.roundToTick tick = .ok c ∧ c.value = n * tick.value := by
  obtain ⟨k, hk, hwhole⟩ := isNearest_roundWhole q
  have hsame : k = n := hk.unique hn
  subst hsame
  rw [← hwhole] at hr ⊢
  obtain ⟨c, hc, hvalue⟩ := mul_of_value hr
  refine ⟨c, ?_, hvalue⟩
  rw [roundToTick, if_neg (not_le.2 htick), hq]
  exact hc

/-- Price and tick size, written with the same number of fraction digits, are numbers below the
bound, and the tick size is positive. -/
def Commensurable (bound : ℤ) (price tick : Decimal) : Prop :=
  ∃ (s : Nat) (p t : ℤ), s ≤ 28 ∧ |p| < bound ∧ 0 < t ∧ t < bound ∧
    price.value = p / 10 ^ s ∧ tick.value = t / 10 ^ s

theorem quotient_of_commensurable {price tick : Decimal} {s : Nat} {p t : ℤ}
    (hprice : price.value = p / 10 ^ s) (htick : tick.value = t / 10 ^ s) :
    price.value / tick.value = p / t := by
  have hpower : (10 : ℚ) ^ s ≠ 0 := by positivity
  rw [hprice, htick, div_div_div_cancel_right₀ hpower]

/-- The nearest multiple of a tick size is at most half a tick away. -/
theorem IsNearest.abs_mul_sub_le {x tick : ℚ} {n : ℤ} (htick : 0 < tick) (h : IsNearest (x / tick) n) :
    |n * tick - x| ≤ tick / 2 := by
  have hscaled : n * tick - x = -(x / tick - n) * tick := by
    field_simp
    ring
  rw [hscaled, abs_mul, abs_neg, abs_of_pos htick]
  have hnear := mul_le_mul_of_nonneg_right h.near htick.le
  linarith

/-- The nearest multiple is not further from zero than the price and half a tick together. -/
theorem IsNearest.abs_mul_le {x tick : ℚ} {n : ℤ} (htick : 0 < tick) (h : IsNearest (x / tick) n) :
    |n * tick| ≤ |x| + tick / 2 := by
  have hnear := h.abs_mul_sub_le htick
  have htriangle := abs_sub_abs_le_abs_sub (n * tick) x
  linarith

theorem IsNearest.two_mul_abs_mul_le {p t n : ℤ} (ht : 0 < t) (h : IsNearest (p / t) n) :
    2 * |n * t| ≤ 2 * |p| + t := by
  have hle := h.abs_mul_le (Int.cast_pos.2 ht)
  have hcast : 2 * |(n : ℚ) * t| ≤ 2 * |(p : ℚ)| + t := by linarith
  exact_mod_cast hcast

/-- Rounding to ticks, for numbers of one digit more than promised, so that what was rounded can be
rounded again.  The multiple is a number of the same kind. -/
theorem exists_roundToTick {price tick : Decimal} (h : Commensurable (10 ^ 25) price tick) :
    ∃ c n, price.roundToTick tick = .ok c ∧ IsNearest (price.value / tick.value) n ∧
      c.value = n * tick.value := by
  obtain ⟨s, p, t, hs, hp, ht, ht', hprice, htickv⟩ := h
  have htpos : (0 : ℚ) < t := Int.cast_pos.2 ht
  have htick : zero < tick := by
    rw [pos_iff_value, htickv]
    positivity
  have hquotient := quotient_of_commensurable hprice htickv
  have hdigits : tick.digits ≠ 0 := (pos_iff.1 htick).2
  have hrange : price.magnitude / tick.magnitude ≤ (power 2 96 - 1 : Nat) := by
    have hbound : |(p : ℚ)| < 10 ^ 25 := by exact_mod_cast hp
    have hone : (1 : ℚ) ≤ t := by exact_mod_cast ht
    rw [← abs_value_div_value, hquotient, abs_div, abs_of_pos htpos]
    calc
      |(p : ℚ)| / t ≤ |(p : ℚ)| := div_le_self (abs_nonneg _) hone
      _ ≤ 10 ^ 25 := hbound.le
      _ ≤ (power 2 96 - 1 : Nat) := by exact_mod_cast (by decide : 10 ^ 25 ≤ power 2 96 - 1)
  obtain ⟨q, hq⟩ := exists_div hdigits hrange
  obtain ⟨n, hn, -⟩ := isNearest_roundWhole q
  -- the whole number nearest to the computed quotient is nearest to the exact one
  have hexact : IsNearest (price.value / tick.value) n := by
    rcases div_eq_or_approximates hdigits hq with hsame | ⟨d, hnear⟩
    · rw [← hsame]
      exact hn
    · rw [hquotient] at hnear ⊢
      exact hn.of_approximates hp ht ht' hnear
  obtain ⟨r, hr⟩ : ∃ r : Decimal, r.value = n * tick.value := by
    have hmultiple := (hquotient ▸ hexact : IsNearest (p / t) n).two_mul_abs_mul_le ht
    have hbits : (n * t).natAbs < power 2 96 := by
      have hless : |n * t| < 2 * 10 ^ 25 := by linarith
      rw [Int.abs_eq_natAbs] at hless
      have hpower : 2 * 10 ^ 25 < power 2 96 := by decide
      omega
    obtain ⟨r, hr⟩ := exists_value hbits hs
    refine ⟨r, ?_⟩
    rw [hr, htickv, Int.cast_mul, mul_div_assoc]
  obtain ⟨c, hc, hvalue⟩ := roundToTick_of_div htick hq hn hr
  exact ⟨c, n, hc, hexact, hvalue⟩

/-- The multiple of the tick size to which a price is rounded is commensurable with it. -/
theorem Commensurable.rounded {price tick c : Decimal} {n : ℤ} (h : Commensurable (10 ^ 24) price tick)
    (hn : IsNearest (price.value / tick.value) n) (hc : c.value = n * tick.value) :
    Commensurable (10 ^ 25) c tick := by
  obtain ⟨s, p, t, hs, hp, ht, ht', hprice, htick⟩ := h
  rw [quotient_of_commensurable hprice htick] at hn
  have hmultiple := hn.two_mul_abs_mul_le ht
  refine ⟨s, n * t, t, hs, by linarith, ht, by linarith, ?_, htick⟩
  rw [hc, htick, Int.cast_mul, mul_div_assoc]

theorem Commensurable.mono {bound bound' : ℤ} {price tick : Decimal}
    (h : Commensurable bound price tick) (hle : bound ≤ bound') : Commensurable bound' price tick := by
  obtain ⟨s, p, t, hs, hp, ht, ht', hprice, htick⟩ := h
  exact ⟨s, p, t, hs, hp.trans_le hle, ht, ht'.trans_le hle, hprice, htick⟩

theorem Commensurable.neg {bound : ℤ} {price tick : Decimal} (h : Commensurable bound price tick) :
    Commensurable bound price.neg tick := by
  obtain ⟨s, p, t, hs, hp, ht, ht', hprice, htick⟩ := h
  refine ⟨s, -p, t, hs, by rwa [abs_neg], ht, ht', ?_, htick⟩
  rw [value_neg, hprice, Int.cast_neg, neg_div]

theorem Commensurable.tick_pos {bound : ℤ} {price tick : Decimal}
    (h : Commensurable bound price tick) : 0 < tick.value := by
  obtain ⟨s, p, t, -, -, ht, -, -, htick⟩ := h
  have htpos : (0 : ℚ) < t := Int.cast_pos.2 ht
  rw [htick]
  positivity

/-- A price is rounded to the nearest multiple of the tick size, a half away from zero, whenever both
can be written at one scale with at most 24 digits.  So on these prices rounding moves a price by at
most half a tick, rounds a rounded price to itself, and keeps signs and the order. -/
theorem roundToTick_nearest {price tick : Decimal} (h : Commensurable (10 ^ 24) price tick) :
    ∃ rounded n, price.roundToTick tick = .ok rounded ∧
      IsNearest (price.value / tick.value) n ∧ rounded.value = n * tick.value ∧
      |rounded.value - price.value| ≤ tick.value / 2 ∧
      (∃ again, rounded.roundToTick tick = .ok again ∧ again.value = rounded.value) ∧
      (∃ mirrored, price.neg.roundToTick tick = .ok mirrored ∧ mirrored.value = -rounded.value) ∧
      ∀ higher, Commensurable (10 ^ 24) higher tick → price ≤ higher →
        ∃ above, higher.roundToTick tick = .ok above ∧ rounded ≤ above := by
  have hwide : ((10 : ℤ) ^ 24) ≤ 10 ^ 25 := by norm_num
  have htick : 0 < tick.value := h.tick_pos
  obtain ⟨rounded, n, hrounded, hn, hvalue⟩ := exists_roundToTick (h.mono hwide)
  refine ⟨rounded, n, hrounded, hn, hvalue, ?_, ?_, ?_, ?_⟩
  · rw [hvalue]
    exact hn.abs_mul_sub_le htick
  · -- the quotient of a multiple is a whole number already
    obtain ⟨again, k, hagain, hk, hkvalue⟩ := exists_roundToTick (h.rounded hn hvalue)
    refine ⟨again, hagain, ?_⟩
    rw [hvalue, mul_div_cancel_right₀ _ htick.ne'] at hk
    rw [hkvalue, hvalue, hk.unique (IsNearest.of_int n)]
  · obtain ⟨mirrored, k, hmirrored, hk, hkvalue⟩ := exists_roundToTick (h.neg.mono hwide)
    refine ⟨mirrored, hmirrored, ?_⟩
    rw [value_neg, neg_div] at hk
    rw [hkvalue, hvalue, hk.unique hn.neg, Int.cast_neg, neg_mul]
  · intro higher hhigher hle
    obtain ⟨above, k, habove, hk, hkvalue⟩ := exists_roundToTick (hhigher.mono hwide)
    refine ⟨above, habove, ?_⟩
    have hquotients : price.value / tick.value ≤ higher.value / tick.value :=
      div_le_div_of_nonneg_right (le_iff_value.1 hle) htick.le
    have hcast : (n : ℚ) ≤ k := Int.cast_le.2 (hn.mono hk hquotients)
    rw [le_iff_value, hvalue, hkvalue]
    exact mul_le_mul_of_nonneg_right hcast htick.le

/-- A price that is less than half a tick by half of the last of 24 digits.  It is rounded to zero, and
not to the tick. -/
theorem roundToTick_nearest_of_almost_half :
    let price := whole false 499999999999999999999999 (by decide)
    let tick := whole false 999999999999999999999999 (by decide)
    Commensurable (10 ^ 24) price tick ∧
      ∃ rounded, price.roundToTick tick = .ok rounded ∧ rounded.value = 0 ∧
        |rounded.value - price.value| ≤ tick.value / 2 := by
  intro price tick
  have hprice : price.value = 499999999999999999999999 := value_whole _
  have htick : tick.value = 999999999999999999999999 := value_whole _
  have h : Commensurable (10 ^ 24) price tick := by
    refine ⟨0, 499999999999999999999999, 999999999999999999999999, by decide, by decide, by decide,
      by decide, ?_, ?_⟩
    · rw [hprice]
      norm_num
    · rw [htick]
      norm_num
  have hzero : IsNearest (price.value / tick.value) 0 := by
    rw [hprice, htick]
    refine ⟨?_, ?_⟩
    · rw [Int.cast_zero, sub_zero, abs_of_nonneg (by norm_num)]
      norm_num
    · intro hhalf
      rw [Int.cast_zero, sub_zero, abs_of_nonneg (by norm_num)] at hhalf
      norm_num at hhalf
  obtain ⟨rounded, n, hrounded, hn, hvalue, hhalf, -⟩ := roundToTick_nearest h
  refine ⟨h, rounded, hrounded, ?_, hhalf⟩
  rw [hvalue, hn.unique hzero, Int.cast_zero, zero_mul]

end Decimal
end EntryGate
