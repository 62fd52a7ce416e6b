import EntryGate.Proofs.DecimalExactness

/-!
# The order of rounded sums

A sum or difference of decimals that does not fit is rounded, and how many of its digits are given up
depends on how great it is.  Rounding keeps the order all the same: of two exact results, the one that
is not greater is not rounded to a greater decimal, whatever the scales of the operands are.  Two
different results may well be rounded to the same decimal.

* `Decimal.fit_mono` is the fact about rounding; the results may lose different numbers of digits;
* `Decimal.sum_mono` says it of rounded sums of both signs;
* `Decimal.add_mono`, `Decimal.sub_mono` and `Decimal.sub_le_sub` say it of the operations.
-/

namespace EntryGate
namespace Decimal

/-! ## Rounded quotients -/

/-- Quotients keep their order when they are rounded. -/
theorem divHalfEven_le_divHalfEven {n d m e : Nat} (hd : 0 < d) (he : 0 < e) (h : n * e ≤ m * d) :
    divHalfEven n d ≤ divHalfEven m e := by
  calc
    divHalfEven n d = divHalfEven (n * e) (d * e) := (divHalfEven_mul_right n d he).symm
    _ ≤ divHalfEven (m * d) (d * e) := divHalfEven_mono h _
    _ = divHalfEven (m * d) (e * d) := by rw [Nat.mul_comm d e]
    _ = divHalfEven m e := divHalfEven_mul_right m e hd

/-- A common power of ten does not matter to a comparison. -/
theorem mul_power_le_of_add {n m a b c : Nat}
    (h : n * power 10 (a + b) ≤ m * power 10 (a + c)) : n * power 10 b ≤ m * power 10 c := by
  have hpos : 0 < power 10 a := power_pos (by decide) a
  refine Nat.le_of_mul_le_mul_right ?_ hpos
  calc
    n * power 10 b * power 10 a = n * power 10 (a + b) := by
      rw [power_add]
      ac_rfl
    _ ≤ m * power 10 (a + c) := h
    _ = m * power 10 c * power 10 a := by
      rw [power_add]
      ac_rfl

/-! ## Rounding to what fits -/

section Fit

variable {fault fault' : Fault} {negative negative' : Bool} {n m s t : Nat} {c d : Decimal}

/-- Both results have the same scale. -/
theorem fit_mono_of_scale_eq (hc : fit fault negative n s = .ok c)
    (hd : fit fault' negative' m t = .ok d) (hle : n * power 10 t ≤ m * power 10 s)
    (hscale : c.scale = d.scale) : c.digits ≤ d.digits := by
  obtain ⟨k, hk, -, -, hcdigits, hcscale⟩ := fit_eq_ok hc
  obtain ⟨l, hl, -, -, hddigits, hdscale⟩ := fit_eq_ok hd
  have hs : s = c.scale + k := by omega
  have ht : t = c.scale + l := by omega
  rw [hs, ht] at hle
  rw [hcdigits, hddigits]
  exact divHalfEven_le_divHalfEven (power_pos (by decide) k) (power_pos (by decide) l)
    (mul_power_le_of_add hle)

/-- A result with fewer fraction digits than there may be is exact, or else it has lost no digit that
there was room for. -/
theorem exact_or_full_of_fit (h : fit fault negative n s = .ok c) (hcoarse : c.scale < 28) :
    (c.digits = n ∧ c.scale = s) ∨
      ∃ k, s = c.scale + (k + 1) ∧ c.digits = divHalfEven n (power 10 (k + 1)) ∧
        power 2 96 ≤ divHalfEven n (power 10 k) := by
  rcases fit_eq_ok h with ⟨k, hk, hmost, -, hdigits, hscale⟩
  cases k with
  | zero =>
    rw [power_zero, divHalfEven_one] at hdigits
    exact Or.inl ⟨hdigits, hscale⟩
  | succ k =>
    refine Or.inr ⟨k, by omega, hdigits, ?_⟩
    rcases hmost with hfirst | hfull
    · -- dropping only what no scale has room for would leave 28 fraction digits
      omega
    · exact hfull

/-- The greater number keeps more fraction digits.  Then the smaller one has lost none. -/
theorem fit_mono_of_scale_lt (hc : fit fault negative n s = .ok c)
    (hd : fit fault' negative' m t = .ok d) (hle : n * power 10 t ≤ m * power 10 s)
    (hscale : c.scale < d.scale) :
    c.digits * power 10 d.scale ≤ d.digits * power 10 c.scale := by
  rcases exact_or_full_of_fit hc (Nat.lt_of_lt_of_le hscale d.scale_le) with
    ⟨hdigits, hs⟩ | ⟨k, hs, -, hfull⟩
  · refine digits_le_of_fit hd ?_
    rw [hdigits, hs]
    exact hle
  · exfalso
    -- one more digit of the smaller number is out of range, and so are the digits of the greater one
    rcases fit_eq_ok hd with ⟨l, hl, -, -, hddigits, hdscale⟩
    have hless : divHalfEven n (power 10 k) ≤ d.digits := by
      rw [hddigits]
      refine divHalfEven_le_divHalfEven (power_pos (by decide) k) (power_pos (by decide) l) ?_
      have hs' : s = c.scale + 1 + k := by omega
      have ht : t = c.scale + 1 + (d.scale - (c.scale + 1) + l) := by omega
      rw [hs', ht] at hle
      calc
        n * power 10 l ≤ n * power 10 (d.scale - (c.scale + 1) + l) :=
          Nat.mul_le_mul_left n (Nat.pow_le_pow_right (by decide) (Nat.le_add_left _ _))
        _ ≤ m * power 10 k := mul_power_le_of_add hle
    exact absurd (Nat.lt_of_le_of_lt (Nat.le_trans hfull hless) d.digits_lt) (Nat.lt_irrefl _)

/-- The greater number keeps fewer fraction digits. -/
theorem fit_mono_of_scale_gt (hc : fit fault negative n s = .ok c)
    (hd : fit fault' negative' m t = .ok d) (hle : n * power 10 t ≤ m * power 10 s)
    (hscale : d.scale < c.scale) :
    c.digits * power 10 d.scale ≤ d.digits * power 10 c.scale := by
  rcases Nat.exists_eq_add_of_lt hscale with ⟨e, he⟩
  rcases exact_or_full_of_fit hd (Nat.lt_of_lt_of_le hscale c.scale_le) with
    ⟨hddigits, hdscale⟩ | ⟨l, -, hddigits, hfull⟩
  · -- nothing of the greater number is lost, and the smaller one is not rounded above it
    rcases fit_eq_ok hc with ⟨k, hk, -, -, hcdigits, hcscale⟩
    have hbelow : n * power 10 0 ≤ m * power 10 (e + 1) * power 10 k := by
      have hs : s = t + (e + 1 + k) := by omega
      rw [hs, ← Nat.add_zero t, Nat.add_assoc, Nat.zero_add] at hle
      rw [Nat.mul_assoc, ← power_add]
      exact mul_power_le_of_add hle
    have hround : c.digits ≤ m * power 10 (e + 1) := by
      rw [hcdigits, ← divHalfEven_one (m * power 10 (e + 1))]
      refine divHalfEven_le_divHalfEven (power_pos (by decide) k) Nat.one_pos ?_
      simpa using hbelow
    calc
      c.digits * power 10 d.scale ≤ m * power 10 (e + 1) * power 10 d.scale :=
        Nat.mul_le_mul_right _ hround
      _ = d.digits * power 10 c.scale := by
        rw [hddigits, he, Nat.mul_assoc, ← power_add]
        congr 2
        omega
  · -- the smaller number has at most 96 bits, and the greater one fills them with one digit more
    have hten := le_ten_mul_of_full hfull
    rw [← hddigits] at hten
    have hsmall : c.digits ≤ 10 * d.digits := by
      have := c.digits_lt
      omega
    have hepos : 0 < power 10 e := power_pos (by decide) e
    rw [he, power_succ, power_add]
    calc
      c.digits * power 10 d.scale ≤ 10 * d.digits * power 10 d.scale :=
        Nat.mul_le_mul_right _ hsmall
      _ ≤ 10 * d.digits * power 10 d.scale * power 10 e := Nat.le_mul_of_pos_right _ hepos
      _ = d.digits * (power 10 d.scale * power 10 e * 10) := by
        ac_rfl

/-- Rounding keeps the order of two numbers, each of its own scale. -/
theorem fit_mono (hc : fit fault negative n s = .ok c) (hd : fit fault' negative' m t = .ok d)
    (hle : n * power 10 t ≤ m * power 10 s) :
    c.digits * power 10 d.scale ≤ d.digits * power 10 c.scale := by
  rcases Nat.lt_trichotomy c.scale d.scale with hlt | heq | hgt
  · exact fit_mono_of_scale_lt hc hd hle hlt
  · rw [heq]
    exact Nat.mul_le_mul_right _ (fit_mono_of_scale_eq hc hd hle heq)
  · exact fit_mono_of_scale_gt hc hd hle hgt

end Fit

/-! ## Sums -/

/-- A sum is the exact one, rounded without its sign. -/
theorem sum_eq_ok {fault : Fault} {a b c : Decimal} (h : sum fault a b = .ok c) :
    ∃ n s, s ≤ 28 ∧ fit fault (decide (a.units + b.units < 0)) n s = .ok c ∧
      (a.units + b.units).natAbs = n * power 10 (28 - s) := by
  have hs : max a.scale b.scale ≤ 28 := Nat.max_le.2 ⟨a.scale_le, b.scale_le⟩
  have hexact : a.units + b.units =
      (a.coeffAt (max a.scale b.scale) + b.coeffAt (max a.scale b.scale)) *
        power 10 (28 - max a.scale b.scale) := by
    rw [units_eq_coeffAt a (Nat.le_max_left _ _) hs, units_eq_coeffAt b (Nat.le_max_right _ _) hs,
      ← Int.add_mul]
  simp only [sum] at h
  rw [hexact]
  -- from here on only the exact sum and its scale matter
  generalize a.coeffAt (max a.scale b.scale) + b.coeffAt (max a.scale b.scale) = n at h ⊢
  generalize max a.scale b.scale = s at h hs ⊢
  have hpos : (0 : Int) < power 10 (28 - s) := Int.natCast_pos.2 (power_pos (by decide) _)
  have hsign : n * power 10 (28 - s) < 0 ↔ n < 0 := by
    rw [mul_neg_iff]
    omega
  refine ⟨n.natAbs, s, hs, ?_, ?_⟩
  · rw [decide_eq_decide.2 hsign]
    exact h
  · rw [Int.natAbs_mul, Int.natAbs_natCast]

/-- Of two exact sums, the one that is not greater is not rounded to a greater decimal. -/
theorem sum_mono {fault fault' : Fault} {a b a' b' c c' : Decimal} (h : sum fault a b = .ok c)
    (h' : sum fault' a' b' = .ok c') (hle : a.units + b.units ≤ a'.units + b'.units) : c ≤ c' := by
  obtain ⟨n, s, hs, hc, hn⟩ := sum_eq_ok h
  obtain ⟨m, t, ht, hc', hm⟩ := sum_eq_ok h'
  obtain ⟨-, -, -, hsign, -⟩ := fit_eq_ok hc
  obtain ⟨-, -, -, hsign', -⟩ := fit_eq_ok hc'
  rcases Int.lt_or_le (a.units + b.units) 0 with hneg | hnonneg
  · rw [decide_eq_true hneg] at hsign
    rcases Int.lt_or_le (a'.units + b'.units) 0 with hneg' | hnonneg'
    · -- both are negative, so that the smaller one is the one of the greater magnitude
      rw [decide_eq_true hneg'] at hsign'
      have hmagnitudes : m * power 10 (28 - t) ≤ n * power 10 (28 - s) := by omega
      rw [scaled_le_scaled_iff ht hs] at hmagnitudes
      have hdigits := fit_mono hc' hc hmagnitudes
      rw [← scaled_le_scaled_iff c'.scale_le c.scale_le] at hdigits
      rw [le_iff_units, units_of_negative hsign, units_of_negative hsign']
      omega
    · rw [decide_eq_false (Int.not_lt.2 hnonneg')] at hsign'
      rw [le_iff_units, units_of_negative hsign, units_of_not_negative hsign']
      omega
  · have hnonneg' : 0 ≤ a'.units + b'.units := Int.le_trans hnonneg hle
    rw [decide_eq_false (Int.not_lt.2 hnonneg)] at hsign
    rw [decide_eq_false (Int.not_lt.2 hnonneg')] at hsign'
    have hmagnitudes : n * power 10 (28 - s) ≤ m * power 10 (28 - t) := by omega
    rw [scaled_le_scaled_iff hs ht] at hmagnitudes
    exact (le_iff_digits hsign hsign').2 (fit_mono hc hc' hmagnitudes)

/-! ## The operations -/

theorem units_eq_of_value {a b : Decimal} (h : a.value = b.value) : a.units = b.units :=
  Int.le_antisymm (le_iff_value.2 h.le) (le_iff_value.2 h.ge)

theorem value_eq_of_units {a b : Decimal} (h : a.units = b.units) : a.value = b.value := by
  rw [value, value, h]

/-- An operand of zero is dropped, and that changes no value. -/
theorem sum_of_add {a b c : Decimal} (h : a.add b = .ok c) :
    ∃ c', sum .additionOverflow a b = .ok c' ∧ c'.units = c.units := by
  rw [add] at h
  by_cases hdropped : a.digits = 0 ∨ b.digits = 0
  · have hvalue : c.value = a.value + b.value := by
      split at h
      · next ha =>
        cases h
        rw [value_of_digits_zero ha, zero_add]
      · next ha =>
        have hb := hdropped.resolve_left ha
        rw [if_pos hb] at h
        cases h
        rw [value_of_digits_zero hb, add_zero]
    obtain ⟨c', hc', hvalue'⟩ := sum_of_value hvalue
    exact ⟨c', hc', units_eq_of_value (hvalue'.trans hvalue.symm)⟩
  · obtain ⟨ha, hb⟩ := not_or.1 hdropped
    rw [if_neg ha, if_neg hb] at h
    exact ⟨c, h, rfl⟩

theorem sum_of_sub {a b c : Decimal} (h : a.sub b = .ok c) :
    ∃ c', sum .subtractionOverflow a b.neg = .ok c' ∧ c'.units = c.units := by
  rw [sub] at h
  by_cases hdropped : b.digits = 0 ∨ a.digits = 0
  · have hvalue : c.value = a.value + b.neg.value := by
      rw [value_neg, ← sub_eq_add_neg]
      split at h
      · next hb =>
        rw [value_of_digits_zero hb, sub_zero]
        cases h
        split
        · next ha => rw [value_of_digits_zero hb, value_of_digits_zero ha]
        · rfl
      · next hb =>
        have ha := hdropped.resolve_left hb
        rw [if_pos ha] at h
        cases h
        rw [value_neg, value_of_digits_zero ha, zero_sub]
    obtain ⟨c', hc', hvalue'⟩ := sum_of_value hvalue
    exact ⟨c', hc', units_eq_of_value (hvalue'.trans hvalue.symm)⟩
  · obtain ⟨hb, ha⟩ := not_or.1 hdropped
    rw [if_neg hb, if_neg ha] at h
    exact ⟨c, h, rfl⟩

/-- Adding the same to a price that is not greater does not give a greater sum. -/
theorem add_mono {a a' b c c' : Decimal} (h : a.add b = .ok c) (h' : a'.add b = .ok c')
    (hle : a ≤ a') : c ≤ c' := by
  obtain ⟨x, hx, hxc⟩ := sum_of_add h
  obtain ⟨x', hx', hxc'⟩ := sum_of_add h'
  have hsums : a.units + b.units ≤ a'.units + b.units := Int.add_le_add_right hle _
  have hrounded := sum_mono hx hx' hsums
  rwa [le_iff_units, hxc, hxc'] at hrounded

/-- Taking no less from a price that is not greater does not leave more. -/
theorem sub_le_sub {a a' b b' c c' : Decimal} (h : a.sub b = .ok c) (h' : a'.sub b' = .ok c')
    (hle : a ≤ a') (hless : b' ≤ b) : c ≤ c' := by
  obtain ⟨x, hx, hxc⟩ := sum_of_sub h
  obtain ⟨x', hx', hxc'⟩ := sum_of_sub h'
  have hsums : a.units + b.neg.units ≤ a'.units + b'.neg.units := by
    rw [units_neg, units_neg]
    exact Int.add_le_add hle (Int.neg_le_neg hless)
  have hrounded := sum_mono hx hx' hsums
  rwa [le_iff_units, hxc, hxc'] at hrounded

theorem sub_mono {a a' b c c' : Decimal} (h : a.sub b = .ok c) (h' : a'.sub b = .ok c')
    (hle : a ≤ a') : c ≤ c' :=
  sub_le_sub h h' hle (Int.le_refl _)

end Decimal
end EntryGate
