import EntryGate.Decimal.Arithmetic

/-!
# Rounding of decimals

An operation on decimals is computed exactly and then rounded, with as many fraction digits as fit.
Rounding does not cross a decimal: if the exact result is not below some decimal, then the rounded
result is not below it either.  That is what keeps positive results positive.

* `Decimal.fit_eq_ok` is all that rounding does;
* `Decimal.digits_le_of_fit` is the fact about rounding, for exact results of any scale;
* `Decimal.le_add_of_nonneg`, `Decimal.le_mul_of_one_le` and `Decimal.nonneg_of_sub` are what follows
  for sums, products and differences.
-/

namespace EntryGate

namespace Decimal

/-! ## Integer quotients -/

theorem le_divHalfEven (n d : Nat) : n / d ≤ divHalfEven n d := by
  rw [divHalfEven]
  split <;> omega

theorem divHalfEven_le (n d : Nat) : divHalfEven n d ≤ n / d + 1 := by
  rw [divHalfEven]
  split <;> omega

theorem divHalfEven_one (n : Nat) : divHalfEven n 1 = n := by
  simp [divHalfEven, Nat.mod_one]

theorem divHalfEven_mono {n m : Nat} (h : n ≤ m) (d : Nat) : divHalfEven n d ≤ divHalfEven m d := by
  have hquotient : n / d ≤ m / d := Nat.div_le_div_right h
  rcases Nat.lt_or_eq_of_le hquotient with hlt | heq
  · calc
      divHalfEven n d ≤ n / d + 1 := divHalfEven_le n d
      _ ≤ m / d := hlt
      _ ≤ divHalfEven m d := le_divHalfEven m d
  · -- with the same quotient, the greater number has the greater remainder
    have hrest : n % d ≤ m % d := by
      have hn := Nat.div_add_mod n d
      have hm := Nat.div_add_mod m d
      rw [heq] at hn
      omega
    simp only [divHalfEven, heq]
    split <;> split <;> omega

theorem divHalfEven_mul_right (n d : Nat) {c : Nat} (hc : 0 < c) :
    divHalfEven (n * c) (d * c) = divHalfEven n d := by
  have hbelow : d * c < 2 * (n % d * c) ↔ d < 2 * (n % d) := by
    rw [← Nat.mul_assoc, Nat.mul_lt_mul_right hc]
  have hhalf : 2 * (n % d * c) = d * c ↔ 2 * (n % d) = d := by
    rw [← Nat.mul_assoc, Nat.mul_left_inj (Nat.ne_of_gt hc)]
  simp only [divHalfEven, Nat.mul_div_mul_right n d hc, Nat.mul_mod_mul_right, hbelow, hhalf]

/-! ## What rounding does -/

theorem ofDigits_eq_ok {fault : Fault} {negative : Bool} {n scale : Nat} {d : Decimal}
    (h : ofDigits fault negative n scale = .ok d) :
    d.negative = negative ∧ d.digits = n ∧ d.scale = scale := by
  rw [ofDigits, ofDigits?] at h
  by_cases hrange : n < power 2 96 ∧ scale ≤ 28
  · rw [dif_pos hrange] at h
    cases h
    exact ⟨rfl, rfl, rfl⟩
  · rw [dif_neg hrange] at h
    cases h

/-- The digits that are given up: as few as possible. -/
theorem dropCount?_eq_some {n scale k : Nat} (h : dropCount? n scale = some k) :
    k ≤ scale ∧ (k = scale - 28 ∨ power 2 96 ≤ divHalfEven n (power 10 (k - 1))) := by
  rw [dropCount?, droppable, List.find?_range'_eq_some] at h
  obtain ⟨-, hrange, hleast⟩ := h
  obtain ⟨hlow, hhigh⟩ := List.mem_range'_1.1 hrange
  refine ⟨by omega, ?_⟩
  rcases Nat.eq_or_lt_of_le hlow with heq | hlt
  · exact .inl heq.symm
  · have hmore := hleast (k - 1) (by omega) (by omega)
    rw [Bool.not_eq_true', decide_eq_false_iff_not, Nat.not_lt] at hmore
    exact .inr hmore

theorem fit_eq_ok {fault : Fault} {negative : Bool} {n scale : Nat} {d : Decimal}
    (h : fit fault negative n scale = .ok d) :
    ∃ k, k ≤ scale ∧ (k = scale - 28 ∨ power 2 96 ≤ divHalfEven n (power 10 (k - 1))) ∧
      d.negative = negative ∧ d.digits = divHalfEven n (power 10 k) ∧ d.scale = scale - k := by
  -- `delta`, since the bound of 96 bits must not be evaluated
  delta fit at h
  cases hdrop : dropCount? n scale with
  | none =>
    rw [hdrop] at h
    cases h
  | some k =>
    rw [hdrop] at h
    obtain ⟨hle, hmost⟩ := dropCount?_eq_some hdrop
    exact ⟨k, hle, hmost, ofDigits_eq_ok h⟩

/-- Ten times the number with one digit less is as great as any number of 96 bits. -/
theorem le_ten_mul_of_full {n k : Nat}
    (h : power 2 96 ≤ divHalfEven n (power 10 k)) :
    power 2 96 - 1 ≤ 10 * divHalfEven n (power 10 (k + 1)) := by
  have hpos : 0 < power 10 k := power_pos (by decide) k
  have hquotient : power 2 96 - 1 ≤ n / power 10 k :=
    Nat.sub_le_of_le_add (Nat.le_trans h (divHalfEven_le n _))
  have hgreat : (power 2 96 - 1) * power 10 k ≤ n := (Nat.le_div_iff_mul_le hpos).1 hquotient
  have hsame : power 10 (k + 1) = 10 * power 10 k := by
    rw [power_succ, Nat.mul_comm]
  calc
    power 2 96 - 1 ≤ 10 * divHalfEven (power 2 96 - 1) 10 := by decide
    _ = 10 * divHalfEven ((power 2 96 - 1) * power 10 k) (10 * power 10 k) := by
      rw [divHalfEven_mul_right _ _ hpos]
    _ ≤ 10 * divHalfEven n (power 10 (k + 1)) := by
      rw [hsame]
      exact Nat.mul_le_mul_left 10 (divHalfEven_mono hgreat _)

/-- Rounding does not cross a decimal from above. -/
theorem digits_le_of_fit {fault : Fault} {negative : Bool} {n scale : Nat} {d r : Decimal}
    (h : fit fault negative n scale = .ok d)
    (hr : r.digits * power 10 scale ≤ n * power 10 r.scale) :
    r.digits * power 10 d.scale ≤ d.digits * power 10 r.scale := by
  obtain ⟨k, hk, hmost, -, hdigits, hscale⟩ := fit_eq_ok h
  rw [hdigits, hscale]
  have hkpos : 0 < power 10 k := power_pos (by decide) k
  by_cases hfine : r.scale ≤ scale - k
  · -- the decimal is on the grid of the result
    obtain ⟨e, he⟩ := Nat.exists_eq_add_of_le hfine
    have htpos : 0 < power 10 r.scale := power_pos (by decide) r.scale
    have hscaled : r.digits * power 10 e * power 10 k ≤ n := by
      have hsum : scale = r.scale + e + k := by omega
      rw [hsum, power_add, power_add] at hr
      have hcancel : r.digits * power 10 e * power 10 k * power 10 r.scale ≤ n * power 10 r.scale := by
        calc
          r.digits * power 10 e * power 10 k * power 10 r.scale =
              r.digits * (power 10 r.scale * power 10 e * power 10 k) := by
            ac_rfl
          _ ≤ n * power 10 r.scale := hr
      exact Nat.le_of_mul_le_mul_right hcancel htpos
    have hquotient : r.digits * power 10 e ≤ divHalfEven n (power 10 k) :=
      Nat.le_trans ((Nat.le_div_iff_mul_le hkpos).2 hscaled) (le_divHalfEven n _)
    rw [he, power_add]
    calc
      r.digits * (power 10 r.scale * power 10 e) = r.digits * power 10 e * power 10 r.scale := by
        ac_rfl
      _ ≤ divHalfEven n (power 10 k) * power 10 r.scale := Nat.mul_le_mul_right _ hquotient
  · by_cases hexact : k = 0
    · -- nothing was given up
      subst hexact
      rw [power_zero, divHalfEven_one, Nat.sub_zero]
      exact hr
    · -- the decimal has more digits after the point than the result, so it is smaller than that
      have hfull : power 2 96 ≤ divHalfEven n (power 10 (k - 1)) := by
        rcases hmost with hfirst | hfull
        · have := r.scale_le
          omega
        · exact hfull
      have hten := le_ten_mul_of_full hfull
      rw [Nat.sub_add_cancel (Nat.pos_of_ne_zero hexact)] at hten
      have hsmall : r.digits ≤ 10 * divHalfEven n (power 10 k) := by
        have := r.digits_lt
        omega
      obtain ⟨e, he⟩ := Nat.exists_eq_add_of_lt (Nat.lt_of_not_le hfine)
      have hepos : 0 < power 10 e := power_pos (by decide) e
      rw [he, power_succ, power_add]
      calc
        r.digits * power 10 (scale - k)
            ≤ 10 * divHalfEven n (power 10 k) * power 10 (scale - k) :=
          Nat.mul_le_mul_right _ hsmall
        _ ≤ 10 * divHalfEven n (power 10 k) * power 10 (scale - k) * power 10 e :=
          Nat.le_mul_of_pos_right _ hepos
        _ = divHalfEven n (power 10 k) * (power 10 (scale - k) * power 10 e * 10) := by
          ac_rfl

/-! ## Values without a sign -/

theorem units_of_not_negative {a : Decimal} (h : a.negative = false) :
    a.units = ((a.digits * power 10 (28 - a.scale) : Nat) : Int) := by
  simp [units, coeff, h]

theorem units_of_negative {a : Decimal} (h : a.negative = true) :
    a.units = -((a.digits * power 10 (28 - a.scale) : Nat) : Int) := by
  rw [units, coeff, if_pos h, Int.natCast_mul, Int.neg_mul]

theorem units_of_digits_zero {a : Decimal} (h : a.digits = 0) : a.units = 0 := by
  simp [units, coeff, h]

theorem nonneg_of_not_negative {a : Decimal} (h : a.negative = false) : zero ≤ a := by
  rw [le_iff_units, units_zero, units_of_not_negative h]
  exact Int.natCast_nonneg _

theorem nonneg_iff {a : Decimal} : zero ≤ a ↔ a.negative = false ∨ a.digits = 0 := by
  constructor
  · intro h
    cases hsign : a.negative with
    | false => exact .inl rfl
    | true =>
      right
      rw [le_iff_units, units_zero, units_of_negative hsign] at h
      have hpos : 0 < power 10 (28 - a.scale) := power_pos (by decide) _
      have hnone : a.digits * power 10 (28 - a.scale) = 0 := by omega
      rcases Nat.mul_eq_zero.1 hnone with hdigits | hpower
      · exact hdigits
      · omega
  · rintro (hsign | hdigits)
    · exact nonneg_of_not_negative hsign
    · exact Int.le_of_eq (units_zero.trans (units_of_digits_zero hdigits).symm)

theorem pos_iff {a : Decimal} : zero < a ↔ a.negative = false ∧ a.digits ≠ 0 := by
  constructor
  · intro h
    have hdigits : a.digits ≠ 0 := by
      intro hzero
      rw [lt_iff_units, units_zero, units_of_digits_zero hzero] at h
      exact Int.lt_irrefl 0 h
    rcases nonneg_iff.1 (Int.le_of_lt h) with hsign | hzero
    · exact ⟨hsign, hdigits⟩
    · exact absurd hzero hdigits
  · rintro ⟨hsign, hdigits⟩
    have hpos : 0 < a.digits * power 10 (28 - a.scale) :=
      Nat.mul_pos (Nat.pos_of_ne_zero hdigits) (power_pos (by decide) _)
    rw [lt_iff_units, units_zero, units_of_not_negative hsign]
    exact Int.natCast_pos.2 hpos

/-- Values at two scales are compared by giving each the scale of the other. -/
theorem scaled_le_scaled_iff {m n s t : Nat} (hs : s ≤ 28) (ht : t ≤ 28) :
    m * power 10 (28 - s) ≤ n * power 10 (28 - t) ↔ m * power 10 t ≤ n * power 10 s := by
  have hpos : ∀ k, 0 < power 10 k := fun k => power_pos (by decide) k
  have hsplit : ∀ k ≤ 28, power 10 (28 - k) * power 10 k = power 10 28 := by
    intro k hk
    rw [← power_add, Nat.sub_add_cancel hk]
  have hleft : m * power 10 (28 - s) * (power 10 s * power 10 t) =
      m * power 10 t * power 10 28 := by
    rw [← hsplit s hs]
    ac_rfl
  have hright : n * power 10 (28 - t) * (power 10 s * power 10 t) =
      n * power 10 s * power 10 28 := by
    rw [← hsplit t ht]
    ac_rfl
  rw [← Nat.mul_le_mul_right_iff (Nat.mul_pos (hpos s) (hpos t)), hleft, hright,
    Nat.mul_le_mul_right_iff (hpos 28)]

theorem le_iff_digits {a b : Decimal} (ha : a.negative = false) (hb : b.negative = false) :
    a ≤ b ↔ a.digits * power 10 b.scale ≤ b.digits * power 10 a.scale := by
  rw [le_iff_units, units_of_not_negative ha, units_of_not_negative hb, Int.ofNat_le]
  exact scaled_le_scaled_iff a.scale_le b.scale_le

/-! ## Sums and differences -/

theorem units_eq_coeffAt (a : Decimal) {s : Nat} (ha : a.scale ≤ s) (hs : s ≤ 28) :
    a.units = a.coeffAt s * power 10 (28 - s) := by
  have hsplit : 28 - a.scale = (s - a.scale) + (28 - s) := by omega
  rw [units, coeffAt, hsplit, power_add, Int.natCast_mul, Int.mul_assoc]

/-- Rounding a sum does not cross a decimal that is not negative. -/
theorem le_of_sum {fault : Fault} {a b c r : Decimal} (h : sum fault a b = .ok c)
    (hr : zero ≤ r) (hle : r.units ≤ a.units + b.units) : r ≤ c := by
  have hs : max a.scale b.scale ≤ 28 := Nat.max_le.2 ⟨a.scale_le, b.scale_le⟩
  rw [units_eq_coeffAt a (Nat.le_max_left _ b.scale) hs,
    units_eq_coeffAt b (Nat.le_max_right a.scale _) hs, ← Int.add_mul] at hle
  simp only [sum] at h
  generalize a.coeffAt (max a.scale b.scale) + b.coeffAt (max a.scale b.scale) = n at h hle
  generalize max a.scale b.scale = s at h hle hs
  -- the exact sum is not negative, and so the rounded one has no sign
  have hn : 0 ≤ n := by
    rcases Int.lt_or_le n 0 with hneg | hnonneg
    · have hpos : (0 : Int) < power 10 (28 - s) := Int.natCast_pos.2 (power_pos (by decide) _)
      have hsum := Int.mul_neg_of_neg_of_pos hneg hpos
      have hr' : 0 ≤ r.units := hr
      omega
    · exact hnonneg
  obtain ⟨m, rfl⟩ := Int.eq_ofNat_of_zero_le hn
  rw [decide_eq_false (Int.not_lt.2 hn), Int.natAbs_natCast] at h
  obtain ⟨-, -, -, hsign, -⟩ := fit_eq_ok h
  rcases nonneg_iff.1 hr with hrsign | hrdigits
  · rw [units_of_not_negative hrsign, ← Int.natCast_mul, Int.ofNat_le,
      scaled_le_scaled_iff r.scale_le hs] at hle
    exact (le_iff_digits hrsign hsign).2 (digits_le_of_fit h hle)
  · rw [le_iff_units, units_of_digits_zero hrdigits]
    exact nonneg_of_not_negative hsign

/-- A sum is not below a positive summand if the other one is not negative. -/
theorem le_add_of_nonneg {a b c : Decimal} (ha : zero < a) (hb : zero ≤ b)
    (h : a.add b = .ok c) : a ≤ c := by
  rw [add, if_neg (pos_iff.1 ha).2] at h
  split at h
  · cases h
    exact Int.le_refl _
  · have hb' : 0 ≤ b.units := hb
    exact le_of_sum h (Int.le_of_lt ha) (by omega)

/-- A difference is not negative if nothing greater is taken away. -/
theorem nonneg_of_sub {a b c : Decimal} (hle : b ≤ a) (h : a.sub b = .ok c) : zero ≤ c := by
  have hunits : b.units ≤ a.units := hle
  rw [sub] at h
  split at h
  · next hb =>
    rw [units_of_digits_zero hb] at hunits
    cases h
    rw [le_iff_units, units_zero]
    split
    · exact Int.le_of_eq (units_of_digits_zero hb).symm
    · exact hunits
  · split at h
    · next ha =>
      rw [units_of_digits_zero ha] at hunits
      cases h
      rw [le_iff_units, units_zero, units_neg]
      omega
    · refine le_of_sum h (Int.le_refl _) ?_
      rw [units_zero, units_neg]
      omega

/-! ## Products -/

theorem units_unsignedZero (a : Decimal) : a.unsignedZero.units = a.units := by
  rw [units, coeff_unsignedZero]
  rfl

/-- What a product of decimals other than zero can be: zero if both factors are short and the scale
is too great, and otherwise what the exact product is rounded to. -/
theorem mul_eq_ok {a b c : Decimal} (ha : a.digits ≠ 0) (hb : b.digits ≠ 0)
    (h : a.mul b = .ok c) :
    (c = zero ∧ b.digits < power 2 32 ∧ 47 < a.scale + b.scale) ∨
      ∃ product, fit .multiplicationOverflow (a.negative != b.negative) (a.digits * b.digits)
        (a.scale + b.scale) = .ok product ∧ c.units = product.units := by
  rw [mul, if_neg (by simp [ha, hb])] at h
  split at h
  · next hshort =>
    cases h
    exact .inl ⟨rfl, of_decide_eq_true hshort.2.1, hshort.2.2⟩
  · obtain ⟨product, hproduct, hc⟩ := Fault.bind_eq_ok.1 h
    refine .inr ⟨product, hproduct, ?_⟩
    cases hc
    split
    · exact units_unsignedZero product
    · rfl

theorem nonneg_mul {a b c : Decimal} (ha : zero ≤ a) (hb : zero ≤ b) (h : a.mul b = .ok c) :
    zero ≤ c := by
  by_cases hzero : a.digits = 0 ∨ b.digits = 0
  · rw [mul, if_pos hzero] at h
    cases h
    exact Int.le_refl _
  · obtain ⟨hadigits, hbdigits⟩ := not_or.1 hzero
    have hasign : a.negative = false := (nonneg_iff.1 ha).resolve_right hadigits
    have hbsign : b.negative = false := (nonneg_iff.1 hb).resolve_right hbdigits
    rcases mul_eq_ok hadigits hbdigits h with ⟨rfl, -⟩ | ⟨product, hproduct, hc⟩
    · exact Int.le_refl _
    · obtain ⟨-, -, -, hsign, -⟩ := fit_eq_ok hproduct
      rw [hasign, hbsign] at hsign
      rw [le_iff_units, hc]
      exact nonneg_of_not_negative hsign

theorem power_le_digits_of_one_le {b : Decimal} (hb : one ≤ b) :
    b.negative = false ∧ power 10 b.scale ≤ b.digits := by
  have hpos : zero < b := Int.lt_of_lt_of_le (by decide : (0 : Int) < one.units) hb
  have hsign : b.negative = false := (pos_iff.1 hpos).1
  have hle := (le_iff_digits (a := one) rfl hsign).1 hb
  refine ⟨hsign, ?_⟩
  calc
    power 10 b.scale = 1 * power 10 b.scale := (Nat.one_mul _).symm
    _ ≤ b.digits * 1 := hle
    _ = b.digits := Nat.mul_one _

/-- A product is not below a positive factor if the other one is not below one.  Such a factor is
too great for the product to be taken for zero. -/
theorem le_mul_of_one_le {a b c : Decimal} (ha : zero < a) (hb : one ≤ b) (h : a.mul b = .ok c) :
    a ≤ c := by
  obtain ⟨hasign, hadigits⟩ := pos_iff.1 ha
  obtain ⟨hbsign, hgreat⟩ := power_le_digits_of_one_le hb
  have hbdigits : b.digits ≠ 0 :=
    Nat.ne_of_gt (Nat.lt_of_lt_of_le (power_pos (by decide) _) hgreat)
  rcases mul_eq_ok hadigits hbdigits h with ⟨-, hshort, hscale⟩ | ⟨product, hproduct, hc⟩
  · -- a short factor with so many fraction digits would be below one
    exfalso
    have hmany : 20 ≤ b.scale := by
      have := a.scale_le
      omega
    obtain ⟨e, he⟩ := Nat.exists_eq_add_of_le hmany
    have hepos : 0 < power 10 e := power_pos (by decide) e
    have hlarge : power 2 32 ≤ b.digits := by
      calc
        power 2 32 ≤ power 10 20 := by decide
        _ ≤ power 10 20 * power 10 e := Nat.le_mul_of_pos_right _ hepos
        _ = power 10 b.scale := by rw [he, power_add]
        _ ≤ b.digits := hgreat
    exact absurd hshort (Nat.not_lt.2 hlarge)
  · obtain ⟨-, -, -, hsign, -⟩ := fit_eq_ok hproduct
    rw [hasign, hbsign] at hsign
    have hexact : a.digits * power 10 (a.scale + b.scale) ≤
        a.digits * b.digits * power 10 a.scale := by
      calc
        a.digits * power 10 (a.scale + b.scale) =
            a.digits * power 10 b.scale * power 10 a.scale := by
          rw [power_add]
          ac_rfl
        _ ≤ a.digits * b.digits * power 10 a.scale :=
          Nat.mul_le_mul_right _ (Nat.mul_le_mul_left _ hgreat)
    have hle : a ≤ product := (le_iff_digits hasign hsign).2 (digits_le_of_fit hproduct hexact)
    rw [le_iff_units, hc]
    exact hle

end Decimal
end EntryGate
