import EntryGate.Proofs.DecimalExactness
import Mathlib.Data.Nat.Cast.Order.Field

/-!
# Quotients of decimals

A quotient is computed with as many digits as fit, and the last of them is rounded.  Digits come in
blocks, and trailing zeros are dropped in blocks, but neither shows in the value.

* `Decimal.DividesTo` says what a quotient can be: the exact one, or the nearest number at a scale that
  no more digits fit into;
* `Decimal.dividesTo_of_div` says that division returns nothing else, and `Decimal.exists_div` that it
  returns something as long as the quotient is in range;
* `Decimal.Approximates` is how near a rounded quotient is to the exact one;
* `Decimal.div_of_value` says that a quotient that is a decimal is not rounded.
-/

namespace EntryGate
namespace Decimal

/-! ## Trailing zeros -/

/-- The second number, with its scale, is the first one without some of its trailing zeros. -/
def Shortens (p q : Nat × Nat) : Prop :=
  q.2 ≤ p.2 ∧ p.1 = q.1 * power 10 (p.2 - q.2)

theorem Shortens.refl (p : Nat × Nat) : Shortens p p := by
  refine ⟨Nat.le_refl _, ?_⟩
  rw [Nat.sub_self, power_zero, Nat.mul_one]

theorem Shortens.trans {p q r : Nat × Nat} (hpq : Shortens p q) (hqr : Shortens q r) :
    Shortens p r := by
  obtain ⟨hle, hdigits⟩ := hpq
  obtain ⟨hle', hdigits'⟩ := hqr
  refine ⟨Nat.le_trans hle' hle, ?_⟩
  have hsplit : p.2 - r.2 = (q.2 - r.2) + (p.2 - q.2) := by omega
  rw [hdigits, hdigits', hsplit, power_add, Nat.mul_assoc]

theorem shortens_dropBlock (width : Nat) (p : Nat × Nat) : Shortens p (dropBlock width p) := by
  rw [dropBlock]
  split
  · next h =>
    have hzeros : p.2 - (p.2 - width) = width := by omega
    refine ⟨Nat.sub_le _ _, ?_⟩
    show p.1 = p.1 / power 10 width * power 10 (p.2 - (p.2 - width))
    rw [hzeros, Nat.div_mul_cancel (Nat.dvd_of_mod_eq_zero h.2)]
  · exact Shortens.refl p

theorem shortens_dropEights (rounds : Nat) (p : Nat × Nat) : Shortens p (dropEights rounds p) := by
  induction rounds generalizing p with
  | zero => exact Shortens.refl p
  | succ rounds ih =>
    rw [dropEights]
    split
    · exact (shortens_dropBlock 8 p).trans (ih _)
    · exact Shortens.refl p

theorem shortens_dropBlocks (n scale : Nat) : Shortens (n, scale) (dropBlocks n scale) :=
  (shortens_dropEights (scale / 8) (n, scale)).trans <|
    (shortens_dropBlock 4 _).trans <| (shortens_dropBlock 2 _).trans (shortens_dropBlock 1 _)

/-- Dropping trailing zeros from a decimal leaves a decimal of the same magnitude. -/
theorem ofDigits_dropBlocks (q : Decimal) (negative : Bool) :
    ∃ c, ofDigits .divisionOverflow negative (dropBlocks q.digits q.scale).1
        (dropBlocks q.digits q.scale).2 = .ok c ∧
      c.negative = negative ∧ c.magnitude = q.magnitude := by
  obtain ⟨hle, hdigits⟩ := shortens_dropBlocks q.digits q.scale
  generalize dropBlocks q.digits q.scale = short at hle hdigits ⊢
  change short.2 ≤ q.scale at hle
  change q.digits = short.1 * power 10 (q.scale - short.2) at hdigits
  have hpos : 0 < power 10 (q.scale - short.2) := power_pos (by decide) _
  have hrange : short.1 < power 2 96 := by
    calc
      short.1 ≤ short.1 * power 10 (q.scale - short.2) := Nat.le_mul_of_pos_right _ hpos
      _ = q.digits := hdigits.symm
      _ < power 2 96 := q.digits_lt
  have hscale : short.2 ≤ 28 := Nat.le_trans hle q.scale_le
  refine ⟨_, ofDigits_of_lt hrange hscale _ _, rfl, ?_⟩
  show (short.1 : ℚ) / 10 ^ short.2 = q.digits / 10 ^ q.scale
  rw [div_power_eq_iff, hdigits, Nat.mul_assoc, ← power_add, Nat.sub_add_cancel hle]

/-! ## The number of digits -/

/-- The first number from above with a property, in a range: the next one does not have it. -/
theorem find?_reverse_range' {p : Nat → Bool} {start length k : Nat}
    (h : (List.range' start length).reverse.find? p = some k) :
    k ∈ List.range' start length ∧ p k = true ∧
      (k + 1 ∈ List.range' start length → p (k + 1) = false) := by
  obtain ⟨hk, above, below, hsplit, habove⟩ := List.find?_eq_some_iff_append.1 h
  have hmem : k ∈ (List.range' start length).reverse := List.mem_of_find?_eq_some h
  refine ⟨List.mem_reverse.1 hmem, hk, ?_⟩
  intro hnext
  -- the range falls, so what comes after `k` in it is less than `k`
  have hfalls : (List.range' start length).reverse.Pairwise fun m n => n < m :=
    List.pairwise_reverse.2 List.pairwise_lt_range'
  rw [hsplit] at hfalls
  have hbelow : ∀ m ∈ below, m < k := (List.pairwise_cons.1 (List.pairwise_append.1 hfalls).2.1).1
  have hplace : k + 1 ∈ above ++ k :: below := by
    rw [← hsplit]
    exact List.mem_reverse.2 hnext
  rcases List.mem_append.1 hplace with hin | hin
  · simpa using habove (k + 1) hin
  · rcases List.mem_cons.1 hin with heq | hin
    · omega
    · have := hbelow (k + 1) hin
      omega

theorem mem_extensions_iff {a b : Decimal} {k : Nat} :
    k ∈ List.range' (b.scale - a.scale) (29 + b.scale - a.scale - (b.scale - a.scale)) ↔
      b.scale ≤ a.scale + k ∧ a.scale + k ≤ 28 + b.scale := by
  have ha := a.scale_le
  rw [List.mem_range'_1]
  omega

/-- The digits of a quotient are in range, and there are as many as fit, or nothing remains. -/
theorem extension?_eq_some {a b : Decimal} {k : Nat} (h : extension? a b = some k) :
    b.scale ≤ a.scale + k ∧ a.scale + k ≤ 28 + b.scale ∧
      a.digits * power 10 k / b.digits < power 2 96 ∧
      (b.digits ∣ a.digits * power 10 k ∨ a.scale + k = 28 + b.scale ∨
        power 2 96 ≤ a.digits * power 10 (k + 1) / b.digits) := by
  rw [extension?] at h
  obtain ⟨most, hfind, hk⟩ := Option.map_eq_some_iff.1 h
  obtain ⟨hmem, hmost, hnext⟩ := find?_reverse_range' hfind
  obtain ⟨hlow, hhigh⟩ := mem_extensions_iff.1 hmem
  have hrange : a.digits * power 10 most / b.digits < power 2 96 := of_decide_eq_true hmost
  split at hk
  · next block hblock =>
    -- the division ended with a block that leaves nothing
    have hfound := List.find?_some hblock
    obtain ⟨hless, hrest⟩ := of_decide_eq_true hfound
    have hle : k ≤ most := by omega
    have hblocks : block ≤ k := by omega
    refine ⟨by omega, by omega, ?_, .inl ?_⟩
    · refine Nat.lt_of_le_of_lt (Nat.div_le_div_right ?_) hrange
      exact Nat.mul_le_mul_left _ (Nat.pow_le_pow_right (by decide) hle)
    · obtain ⟨e, rfl⟩ := Nat.exists_eq_add_of_le hblocks
      rw [power_add, ← Nat.mul_assoc]
      exact Dvd.dvd.mul_right (Nat.dvd_of_mod_eq_zero hrest) _
  · subst hk
    refine ⟨hlow, hhigh, hrange, .inr ?_⟩
    by_cases hfull : a.scale + most = 28 + b.scale
    · exact .inl hfull
    · have hfails := hnext (mem_extensions_iff.2 ⟨by omega, by omega⟩)
      exact .inr (Nat.not_lt.1 (of_decide_eq_false hfails))

theorem exists_extension? {a b : Decimal}
    (h : a.digits * power 10 (b.scale - a.scale) / b.digits < power 2 96) :
    ∃ k, extension? a b = some k := by
  have ha := a.scale_le
  have hmem : b.scale - a.scale ∈ extensions a b :=
    List.mem_reverse.2 (mem_extensions_iff.2 ⟨by omega, by omega⟩)
  rw [extension?]
  cases hfind : (extensions a b).find? fun k =>
      decide (a.digits * power 10 k / b.digits < power 2 96) with
  | none => exact absurd (decide_eq_true h) (List.find?_eq_none.1 hfind _ hmem)
  | some most => exact ⟨_, rfl⟩

/-! ## What a quotient is -/

/-- The exact quotient of two magnitudes, in terms of the digits at a scale. -/
theorem quotient_eq {a b : Decimal} (hb : b.digits ≠ 0) {k s : Nat}
    (h : a.scale + k = b.scale + s) :
    a.magnitude / b.magnitude = ((a.digits * power 10 k : Nat) : ℚ) / b.digits / 10 ^ s := by
  have hdigits : (b.digits : ℚ) ≠ 0 := Nat.cast_ne_zero.2 hb
  have hscales : (10 : ℚ) ^ a.scale * 10 ^ k = 10 ^ b.scale * 10 ^ s := by
    rw [← pow_add, ← pow_add, h]
  rw [magnitude, magnitude, Nat.cast_mul, cast_power]
  field_simp
  rw [mul_assoc, mul_assoc, hscales]

/-- What a quotient of magnitudes can be: the exact one, or else a number of `s` fraction digits, of
which no more fit, that is rounded since something remains. -/
inductive DividesTo (a b : Decimal) (m : ℚ) : Prop where
  | exact (value : m = a.magnitude / b.magnitude)
  | rounded (k s : Nat) (r : Decimal) (scales : a.scale + k = b.scale + s) (scale_le : s ≤ 28)
      (most : s = 28 ∨ power 2 96 ≤ a.digits * power 10 (k + 1) / b.digits)
      (range : a.digits * power 10 k / b.digits < power 2 96)
      (rest : ¬b.digits ∣ a.digits * power 10 k)
      (fits : fit .divisionOverflow false (divHalfEven (a.digits * power 10 k) b.digits) s = .ok r)
      (value : m = r.magnitude)

/-- A fit of digits that are in range keeps them. -/
theorem magnitude_of_fit {fault : Fault} {negative : Bool} {n s : Nat} {r : Decimal}
    (h : fit fault negative n s = .ok r) (hn : n < power 2 96) (hs : s ≤ 28) :
    r.magnitude = n / 10 ^ s := by
  obtain ⟨d, hd, -, hmagnitude⟩ :=
    fit_of_magnitude (r := ⟨false, n, s, hn, hs⟩) rfl fault negative
  rw [h] at hd
  cases hd
  exact hmagnitude

theorem dividesTo_of_divInexact {a b q : Decimal} (hb : b.digits ≠ 0)
    (h : divInexact a b = .ok q) :
    q.negative = (a.negative != b.negative) ∧ DividesTo a b q.magnitude := by
  rw [divInexact] at h
  cases hk : extension? a b with
  | none =>
    rw [hk] at h
    cases h
  | some k =>
    rw [hk] at h
    obtain ⟨hlow, hhigh, hrange, hmost⟩ := extension?_eq_some hk
    obtain ⟨r, hfit, h⟩ := Fault.bind_eq_ok.1 h
    obtain ⟨c, hc, hsign, hmagnitude⟩ := ofDigits_dropBlocks r (a.negative != b.negative)
    have hq : c = q := Except.ok.inj (hc.symm.trans h)
    subst hq
    refine ⟨hsign, ?_⟩
    have hscales : a.scale + k = b.scale + (a.scale + k - b.scale) := by omega
    have hs : a.scale + k - b.scale ≤ 28 := by omega
    generalize a.scale + k - b.scale = s at hfit hscales hs
    by_cases hrest : b.digits ∣ a.digits * power 10 k
    · refine .exact ?_
      obtain ⟨n, hn⟩ := hrest
      have hpos : 0 < b.digits := Nat.pos_of_ne_zero hb
      rw [hn, Nat.mul_comm, divHalfEven_mul_self n hpos] at hfit
      rw [hn, Nat.mul_div_cancel_left n hpos] at hrange
      have hdigits : (b.digits : ℚ) ≠ 0 := Nat.cast_ne_zero.2 hb
      rw [hmagnitude, magnitude_of_fit hfit hrange hs, quotient_eq hb hscales, hn, Nat.cast_mul,
        mul_div_cancel_left₀ _ hdigits]
    · rcases hmost with hexact | hmost
      · exact absurd hexact hrest
      · refine .rounded k s r hscales hs ?_ hrange hrest hfit hmagnitude
        rcases hmost with hfull | hmost
        · exact .inl (by omega)
        · exact .inr hmost

/-- A quotient without a remainder, as a decimal. -/
theorem quotient_of_dvd {a b : Decimal} (hb : b.digits ≠ 0) (h : b.digits ∣ a.digits) :
    a.magnitude / b.magnitude =
      ((a.digits / b.digits * power 10 (b.scale - a.scale) : Nat) : ℚ) / 10 ^ (a.scale - b.scale) := by
  obtain ⟨n, hn⟩ := h
  have hdigits : (b.digits : ℚ) ≠ 0 := Nat.cast_ne_zero.2 hb
  have hscales : a.scale + (b.scale - a.scale) = b.scale + (a.scale - b.scale) := by omega
  rw [quotient_eq hb hscales, hn, Nat.mul_div_cancel_left n (Nat.pos_of_ne_zero hb), Nat.mul_assoc,
    Nat.cast_mul, mul_div_cancel_left₀ _ hdigits]

/-- Division returns a quotient, with the sign of the two operands. -/
theorem dividesTo_of_div {a b q : Decimal} (hb : b.digits ≠ 0) (h : a.div b = .ok q) :
    q.value = signFactor (a.negative != b.negative) * q.magnitude ∧ DividesTo a b q.magnitude := by
  rw [div, if_neg hb] at h
  split at h
  · next ha =>
    cases h
    have hzero : magnitude zero = 0 := magnitude_eq_zero_iff.2 rfl
    rw [value_zero, hzero, mul_zero]
    refine ⟨rfl, .exact ?_⟩
    rw [magnitude_eq_zero_iff.2 ha, zero_div]
  · split at h
    · next hrest =>
      obtain ⟨hsign, hdigits, hscale⟩ := ofDigits_eq_ok h
      refine ⟨?_, .exact ?_⟩
      · rw [value_eq_signFactor_mul, hsign]
      · rw [quotient_of_dvd hb (Nat.dvd_of_mod_eq_zero hrest), ← hdigits, ← hscale, magnitude]
    · obtain ⟨c, hc, h⟩ := Fault.bind_eq_ok.1 h
      cases h
      obtain ⟨hsign, hdivides⟩ := dividesTo_of_divInexact hb hc
      have hmagnitude : c.unsignedZero.magnitude = c.magnitude := rfl
      rw [value_unsignedZero, hmagnitude]
      refine ⟨?_, hdivides⟩
      rw [value_eq_signFactor_mul, hsign]

/-! ## When there is a quotient -/

/-- A number that leaves the range by one loses a digit. -/
theorem exists_fit {n s : Nat} (hn : n ≤ power 2 96) (hs : s ≤ 28) (h : n < power 2 96 ∨ 0 < s)
    (fault : Fault) (negative : Bool) : ∃ r, fit fault negative n s = .ok r := by
  obtain ⟨j, hj, hfits⟩ : ∃ j ≤ s, divHalfEven n (power 10 j) < power 2 96 := by
    rcases h with hlt | hpos
    · refine ⟨0, Nat.zero_le s, ?_⟩
      rw [power_zero, divHalfEven_one]
      exact hlt
    · refine ⟨1, hpos, ?_⟩
      calc
        divHalfEven n (power 10 1) ≤ divHalfEven (power 2 96) (power 10 1) := divHalfEven_mono hn _
        _ < power 2 96 := by decide
  obtain ⟨k, hdrop, -, -, hk⟩ := exists_dropCount? (by omega) hj hfits
  have hscale : s - k ≤ 28 := by omega
  refine ⟨⟨negative, divHalfEven n (power 10 k), s - k, hk, hscale⟩, ?_⟩
  delta fit
  rw [hdrop]
  exact ofDigits_of_lt hk hscale fault negative

/-- The digits at a scale, without what remains, are not more than the exact quotient. -/
theorem floor_le_quotient {a b : Decimal} (hb : b.digits ≠ 0) {k s : Nat}
    (h : a.scale + k = b.scale + s) :
    ((a.digits * power 10 k / b.digits : Nat) : ℚ) / 10 ^ s ≤ a.magnitude / b.magnitude := by
  have hpower : (0 : ℚ) ≤ 10 ^ s := by positivity
  rw [quotient_eq hb h]
  exact div_le_div_of_nonneg_right Nat.cast_div_le hpower

/-- Division returns a quotient if the exact one is in range. -/
theorem exists_div {a b : Decimal} (hb : b.digits ≠ 0)
    (hx : a.magnitude / b.magnitude ≤ (power 2 96 - 1 : Nat)) : ∃ q, a.div b = .ok q := by
  have hrange : ∀ n : Nat, (n : ℚ) ≤ a.magnitude / b.magnitude → n < power 2 96 := by
    intro n hn
    have hle : n ≤ power 2 96 - 1 := Nat.cast_le.1 (hn.trans hx)
    exact Nat.lt_of_le_of_lt hle (by decide)
  -- at a scale that is not negative the digits of the quotient without its fraction are in range
  have hwhole : a.digits * power 10 (b.scale - a.scale) / b.digits < power 2 96 := by
    rcases Nat.le_total b.scale a.scale with hle | hle
    · rw [Nat.sub_eq_zero_of_le hle, power_zero, Nat.mul_one]
      exact Nat.lt_of_le_of_lt (Nat.div_le_self _ _) a.digits_lt
    · have hfloor := floor_le_quotient hb (a := a) (k := b.scale - a.scale) (s := 0) (by omega)
      rw [pow_zero, div_one] at hfloor
      exact hrange _ hfloor
  rw [div, if_neg hb]
  by_cases ha : a.digits = 0
  · rw [if_pos ha]
    exact ⟨zero, rfl⟩
  · rw [if_neg ha]
    by_cases hrest : a.digits % b.digits = 0
    · rw [if_pos hrest]
      have hs : a.scale - b.scale ≤ 28 := Nat.le_trans (Nat.sub_le _ _) a.scale_le
      refine ⟨_, ofDigits_of_lt ?_ hs _ _⟩
      rw [Nat.mul_comm, ← Nat.mul_div_assoc _ (Nat.dvd_of_mod_eq_zero hrest), Nat.mul_comm]
      exact hwhole
    · rw [if_neg hrest]
      obtain ⟨k, hk⟩ := exists_extension? hwhole
      obtain ⟨hlow, hhigh, hdigits, -⟩ := extension?_eq_some hk
      have hs : a.scale + k - b.scale ≤ 28 := by omega
      have hle : divHalfEven (a.digits * power 10 k) b.digits ≤ power 2 96 :=
        Nat.le_trans (divHalfEven_le _ _) hdigits
      have hfits : divHalfEven (a.digits * power 10 k) b.digits < power 2 96 ∨
          0 < a.scale + k - b.scale := by
        rcases Nat.eq_zero_or_pos (a.scale + k - b.scale) with hzero | hpos
        · -- without fraction digits the quotient itself is in range, and so is what it is rounded to
          left
          have hpos : 0 < b.digits := Nat.pos_of_ne_zero hb
          rw [quotient_eq hb (k := k) (s := 0) (by omega), pow_zero, div_one,
            div_le_iff₀ (Nat.cast_pos.2 hpos)] at hx
          have hmost : a.digits * power 10 k ≤ (power 2 96 - 1) * b.digits := by exact_mod_cast hx
          calc
            divHalfEven (a.digits * power 10 k) b.digits
                ≤ divHalfEven ((power 2 96 - 1) * b.digits) b.digits := divHalfEven_mono hmost _
            _ = power 2 96 - 1 := divHalfEven_mul_self _ hpos
            _ < power 2 96 := by decide
        · exact .inr hpos
      obtain ⟨r, hr⟩ := exists_fit hle hs hfits .divisionOverflow false
      obtain ⟨c, hc, -, -⟩ := ofDigits_dropBlocks r (a.negative != b.negative)
      refine ⟨c.unsignedZero, ?_⟩
      rw [divInexact, hk]
      simp only [hr, hc, bind, Except.bind, pure, Except.pure]

/-! ## How near a quotient is -/

/-- Rounding an integer quotient moves it by at most one half. -/
theorem abs_divHalfEven_sub_le (n : Nat) {d : Nat} (hd : 0 < d) :
    |(divHalfEven n d : ℚ) - n / d| ≤ 1 / 2 := by
  have hsplit := Nat.div_add_mod n d
  have hrest := Nat.mod_lt n hd
  have hbounds : 2 * n ≤ 2 * (d * divHalfEven n d) + d ∧ 2 * (d * divHalfEven n d) ≤ 2 * n + d := by
    rw [divHalfEven]
    generalize n / d = q at hsplit ⊢
    split
    · next hup =>
      rw [Nat.mul_add]
      omega
    · next hdown => omega
  obtain ⟨hlow, hhigh⟩ := hbounds
  have hdpos : (0 : ℚ) < d := Nat.cast_pos.2 hd
  have hlow' : 2 * (n : ℚ) ≤ 2 * (d * divHalfEven n d) + d := by exact_mod_cast hlow
  have hhigh' : 2 * ((d : ℚ) * divHalfEven n d) ≤ 2 * n + d := by exact_mod_cast hhigh
  have hquotient : (n : ℚ) / d * d = n := div_mul_cancel₀ _ hdpos.ne'
  rw [abs_le]
  constructor
  · by_contra hfar
    nlinarith
  · by_contra hfar
    nlinarith

/-- A number that is not beyond the bound loses at most one digit, and moves by at most half of it. -/
theorem abs_fit_sub_le {fault : Fault} {negative : Bool} {n s : Nat} {r : Decimal}
    (h : fit fault negative n s = .ok r) (hn : n ≤ power 2 96) (hs : s ≤ 28) :
    |r.magnitude - n / 10 ^ s| ≤ 5 / 10 ^ s := by
  obtain ⟨k, hk, hleast, -, hdigits, hscale⟩ := fit_eq_ok h
  have hone : k ≤ 1 := by
    by_contra hmore
    rcases hleast with hnone | hfull
    · omega
    · -- without one digit the number is in range already
      have hten : power 10 1 ≤ power 10 (k - 1) := Nat.pow_le_pow_right (by decide) (by omega)
      have hless : divHalfEven n (power 10 (k - 1)) < power 2 96 := by
        calc
          divHalfEven n (power 10 (k - 1)) ≤ n / power 10 (k - 1) + 1 := divHalfEven_le _ _
          _ ≤ power 2 96 / power 10 1 + 1 :=
            Nat.add_le_add_right (Nat.div_le_div hn hten (by decide)) 1
          _ < power 2 96 := by decide
      exact absurd hfull (Nat.not_le.2 hless)
  have hround := abs_divHalfEven_sub_le n (power_pos (by decide : 0 < 10) k)
  have hsplit : (10 : ℚ) ^ s = 10 ^ k * 10 ^ (s - k) := by
    rw [← pow_add, Nat.add_sub_cancel' hk]
  have hcoarse : (0 : ℚ) < 10 ^ (s - k) := by positivity
  have hdropped : (10 : ℚ) ^ k ≤ 10 := by
    calc
      (10 : ℚ) ^ k ≤ 10 ^ 1 := pow_le_pow_right₀ (by norm_num) hone
      _ = 10 := pow_one 10
  rw [cast_power] at hround
  rw [magnitude, hdigits, hscale, hsplit]
  calc
    |(divHalfEven n (power 10 k) : ℚ) / 10 ^ (s - k) - n / (10 ^ k * 10 ^ (s - k))|
        = |(divHalfEven n (power 10 k) : ℚ) - n / 10 ^ k| / 10 ^ (s - k) := by
      rw [← div_div, ← sub_div, abs_div, abs_of_pos hcoarse]
    _ ≤ 1 / 2 / 10 ^ (s - k) := div_le_div_of_nonneg_right hround hcoarse.le
    _ ≤ 5 / (10 ^ k * 10 ^ (s - k)) := by
      rw [← div_div]
      refine div_le_div_of_nonneg_right ?_ hcoarse.le
      rw [div_le_div_iff₀ (by norm_num) (by positivity)]
      linarith

/-- A number is near another one that has no place at the scale of `s` fraction digits, of which there
are 28 unless more of them would not fit. -/
structure Approximates (q x : ℚ) (s : Nat) : Prop where
  most : s = 28 ∨ 2 ^ 96 ≤ 10 ^ (s + 1) * |x|
  close : |q - x| ≤ 11 / 2 / 10 ^ s
  rest : ∀ m : ℤ, x * 10 ^ s ≠ m

/-- A quotient of magnitudes is exact or near the exact one. -/
theorem DividesTo.eq_or_approximates {a b : Decimal} {m : ℚ} (hb : b.digits ≠ 0)
    (h : DividesTo a b m) :
    m = a.magnitude / b.magnitude ∨ ∃ s, Approximates m (a.magnitude / b.magnitude) s := by
  cases h with
  | exact value => exact .inl value
  | rounded k s r scales scale_le most range rest fits value =>
    right
    have hquotient := quotient_eq hb scales
    have hpower : (0 : ℚ) < 10 ^ s := by positivity
    have hdigits : (0 : ℚ) < b.digits := Nat.cast_pos.2 (Nat.pos_of_ne_zero hb)
    have hnonneg : 0 ≤ a.magnitude / b.magnitude := div_nonneg a.magnitude_nonneg b.magnitude_nonneg
    refine ⟨s, ?_, ?_, ?_⟩
    · rcases most with hfull | hmore
      · exact .inl hfull
      · right
        have hfloor := floor_le_quotient (a := a) hb (k := k + 1) (s := s + 1) (by omega)
        have hbound : ((power 2 96 : Nat) : ℚ) ≤ (a.digits * power 10 (k + 1) / b.digits : Nat) :=
          Nat.cast_le.2 hmore
        have hcast : ((power 2 96 : Nat) : ℚ) = 2 ^ 96 := Nat.cast_pow 2 96
        rw [div_le_iff₀ (by positivity)] at hfloor
        rw [abs_of_nonneg hnonneg, ← hcast, mul_comm]
        exact hbound.trans hfloor
    · have hfit := abs_fit_sub_le fits (Nat.le_trans (divHalfEven_le _ _) range) scale_le
      have hround := abs_divHalfEven_sub_le (a.digits * power 10 k) (Nat.pos_of_ne_zero hb)
      rw [value, hquotient]
      calc
        |r.magnitude - ((a.digits * power 10 k : Nat) : ℚ) / b.digits / 10 ^ s|
            ≤ |r.magnitude - divHalfEven (a.digits * power 10 k) b.digits / 10 ^ s| +
              |(divHalfEven (a.digits * power 10 k) b.digits : ℚ) / 10 ^ s -
                ((a.digits * power 10 k : Nat) : ℚ) / b.digits / 10 ^ s| := abs_sub_le _ _ _
        _ ≤ 5 / 10 ^ s + 1 / 2 / 10 ^ s := by
          refine add_le_add hfit ?_
          rw [← sub_div, abs_div, abs_of_pos hpower]
          exact div_le_div_of_nonneg_right hround hpower.le
        _ = 11 / 2 / 10 ^ s := by ring
    · -- a place at the scale would leave nothing over
      intro n hn
      rw [hquotient, div_mul_cancel₀ _ hpower.ne', div_eq_iff hdigits.ne'] at hn
      have hdvd : (b.digits : ℤ) ∣ ((a.digits * power 10 k : Nat) : ℤ) := by
        refine ⟨n, ?_⟩
        rw [mul_comm (b.digits : ℤ) n]
        exact_mod_cast hn
      exact rest (Int.natCast_dvd_natCast.1 hdvd)

/-- Signs do not matter for nearness. -/
theorem Approximates.signed {q x : ℚ} {s : Nat} (h : Approximates q x s) (negative : Bool) :
    Approximates (signFactor negative * q) (signFactor negative * x) s := by
  refine ⟨?_, ?_, ?_⟩
  · rw [abs_mul, abs_signFactor, one_mul]
    exact h.most
  · rw [← mul_sub, abs_mul, abs_signFactor, one_mul]
    exact h.close
  · intro m hm
    cases negative with
    | false =>
      refine h.rest m ?_
      simpa [signFactor] using hm
    | true =>
      refine h.rest (-m) ?_
      rw [Int.cast_neg, ← hm]
      simp [signFactor]

theorem value_div_value (a b : Decimal) :
    a.value / b.value = signFactor (a.negative != b.negative) * (a.magnitude / b.magnitude) := by
  have hsign : signFactor a.negative / signFactor b.negative =
      signFactor a.negative * signFactor b.negative := by
    cases a.negative <;> cases b.negative <;> simp [signFactor]
  rw [value_eq_signFactor_mul a, value_eq_signFactor_mul b, mul_div_mul_comm, hsign, signFactor_bne]

/-- Division returns the exact quotient or a number near it. -/
theorem div_eq_or_approximates {a b q : Decimal} (hb : b.digits ≠ 0) (h : a.div b = .ok q) :
    q.value = a.value / b.value ∨ ∃ s, Approximates q.value (a.value / b.value) s := by
  obtain ⟨hsign, hdivides⟩ := dividesTo_of_div hb h
  rw [hsign, value_div_value]
  rcases hdivides.eq_or_approximates hb with hexact | ⟨s, hnear⟩
  · exact .inl (by rw [hexact])
  · exact .inr ⟨s, hnear.signed _⟩

theorem abs_value_div_value (a b : Decimal) :
    |a.value / b.value| = a.magnitude / b.magnitude := by
  rw [abs_div, abs_value, abs_value]

/-- A decimal has a place at every scale that a rounded quotient of its value would have. -/
theorem not_approximates_value (r : Decimal) (q : ℚ) (s : Nat) : ¬Approximates q r.value s := by
  intro h
  rcases Nat.lt_or_ge s r.scale with hlt | hle
  · -- there would be room for all digits of the decimal
    have hr := r.scale_le
    have hgreat : (2 : ℚ) ^ 96 ≤ 10 ^ (s + 1) * r.magnitude := by
      rcases h.most with hfull | hgreat
      · omega
      · rwa [abs_value] at hgreat
    have hscale : (10 : ℚ) ^ (s + 1) ≤ 10 ^ r.scale := pow_le_pow_right₀ (by norm_num) hlt
    have hdigits : (r.digits : ℚ) < 2 ^ 96 := by
      have hcast : ((power 2 96 : Nat) : ℚ) = 2 ^ 96 := Nat.cast_pow 2 96
      rw [← hcast]
      exact Nat.cast_lt.2 r.digits_lt
    have hall : (10 : ℚ) ^ r.scale * r.magnitude = r.digits := by
      rw [magnitude]
      exact mul_div_cancel₀ _ (by positivity)
    have hmore := mul_le_mul_of_nonneg_right hscale r.magnitude_nonneg
    linarith
  · obtain ⟨e, rfl⟩ := Nat.exists_eq_add_of_le hle
    refine h.rest (r.coeff * 10 ^ e) ?_
    have hpower : (10 : ℚ) ^ r.scale ≠ 0 := by positivity
    rw [value_eq_coeff, pow_add, ← mul_assoc, div_mul_cancel₀ _ hpower]
    push_cast
    rfl

theorem magnitude_le (r : Decimal) : r.magnitude ≤ (power 2 96 - 1 : Nat) := by
  have hdigits : r.digits ≤ power 2 96 - 1 := Nat.le_pred_of_lt r.digits_lt
  have hpower : (1 : ℚ) ≤ 10 ^ r.scale := one_le_pow₀ (by norm_num)
  calc
    r.magnitude ≤ r.digits := div_le_self (Nat.cast_nonneg _) hpower
    _ ≤ (power 2 96 - 1 : Nat) := Nat.cast_le.2 hdigits

/-- A quotient that is a decimal is not rounded. -/
theorem div_of_value {a b r : Decimal} (hb : b.digits ≠ 0) (h : r.value = a.value / b.value) :
    ∃ q, a.div b = .ok q ∧ q.value = a.value / b.value := by
  have hx : a.magnitude / b.magnitude ≤ (power 2 96 - 1 : Nat) := by
    rw [← abs_value_div_value, ← h, abs_value]
    exact r.magnitude_le
  obtain ⟨q, hq⟩ := exists_div hb hx
  refine ⟨q, hq, ?_⟩
  rcases div_eq_or_approximates hb hq with hexact | ⟨s, hnear⟩
  · exact hexact
  · rw [← h] at hnear
    exact absurd hnear (not_approximates_value r _ s)

end Decimal
end EntryGate
