import EntryGate.Proofs.PlanOutcomes
import EntryGate.Proofs.TickRounding

/-!
# Prices of accepted entries

The price gate asks for a positive price, and the order carries that price rounded to ticks.  A price
of less than half a tick is rounded to zero, so the order of an accepted entry can have a price of
zero, though never a negative one.

* `Decimal.half_le_magnitude_iff` says which quotients are rounded up to one tick or more.  The quotient
  is itself rounded to 28 digits, and a number that is a half of the last of them below one half is
  rounded to one half;
* `Decimal.roundToTick_pos_iff` says which positive prices stay positive;
* `Planner.accepted_price_pos_iff` says so of the orders of accepted entries.
-/

namespace EntryGate
namespace Decimal

/-! ## Quotients of at least one half -/

/-- A rounded quotient reaches an even number from the half below it on. -/
theorem le_divHalfEven_iff {n d c : Nat} (hd : 0 < d) (heven : c % 2 = 0) :
    c ≤ divHalfEven n d ↔ 2 * (d * c) ≤ 2 * n + d := by
  have hsplit := Nat.div_add_mod n d
  have hrest := Nat.mod_lt n hd
  rcases Nat.lt_trichotomy (n / d + 1) c with hfar | hnext | hbelow
  · -- too far above the quotient
    have hround := divHalfEven_le n d
    have hproduct : d * (n / d + 2) ≤ d * c := Nat.mul_le_mul_left d hfar
    rw [Nat.mul_add] at hproduct
    omega
  · -- the quotient is odd, so that its half is rounded up
    have hproduct : d * c = d * (n / d) + d := by
      rw [← hnext, Nat.mul_add, Nat.mul_one]
    rw [divHalfEven]
    generalize n / d = q at hsplit hnext hproduct ⊢
    split
    · next hup => omega
    · next hdown => omega
  · have hround := le_divHalfEven n d
    have hproduct : d * c ≤ d * (n / d) := Nat.mul_le_mul_left d (Nat.lt_succ_iff.1 hbelow)
    omega

/-- The magnitude at the finest scale. -/
theorem exists_magnitude_eq (a : Decimal) : ∃ n : Nat, a.magnitude = n / 10 ^ 28 := by
  refine ⟨a.digits * power 10 (28 - a.scale), ?_⟩
  rw [magnitude, div_power_eq_iff, Nat.mul_assoc, ← power_add, Nat.sub_add_cancel a.scale_le]

theorem one_le_magnitude_of_fit {fault : Fault} {negative : Bool} {n s : Nat} {r : Decimal}
    (h : fit fault negative n s = .ok r) (hn : power 10 s ≤ n) : 1 ≤ r.magnitude := by
  have hdigits := digits_le_of_fit (r := one) h (by simpa [one, power_zero] using hn)
  have hpower : (0 : ℚ) < 10 ^ r.scale := by positivity
  rw [magnitude, one_le_div hpower, ← cast_power]
  simpa [one, power_zero] using hdigits

/-- The digits of a quotient below one. -/
theorem digits_lt_of_lt_one {a b : Decimal} (hb : b.digits ≠ 0) {k s : Nat}
    (hscales : a.scale + k = b.scale + s) (hone : a.magnitude / b.magnitude < 1) :
    a.digits * power 10 k / b.digits < power 10 s := by
  have hless := (floor_le_quotient hb hscales).trans_lt hone
  rw [div_lt_one (by positivity), ← cast_power] at hless
  exact_mod_cast hless

/-- A quotient below one has 28 fraction digits, if it is rounded at all. -/
theorem scale_eq_of_lt_one {a b : Decimal} (hb : b.digits ≠ 0) {k s : Nat}
    (hscales : a.scale + k = b.scale + s) (hs : s ≤ 28)
    (hmost : s = 28 ∨ power 2 96 ≤ a.digits * power 10 (k + 1) / b.digits)
    (hone : a.magnitude / b.magnitude < 1) : s = 28 := by
  rcases hmost with hfull | hmore
  · exact hfull
  · by_contra hshort
    have hless : a.digits * power 10 (k + 1) / b.digits < power 10 (s + 1) :=
      digits_lt_of_lt_one hb (by omega) hone
    have hten : power 10 (s + 1) ≤ power 10 28 := Nat.pow_le_pow_right (by decide) (by omega)
    -- the digits would have to be more than 96 bits and less than 28 digits long
    exact absurd ((hmore.trans_lt hless).trans_le hten) (by decide)

/-- Rounding to 28 digits takes a number to one half or more from the half of the last digit below one
half on. -/
theorem half_le_rounded_iff {n d : Nat} (hd : 0 < d) :
    (1 : ℚ) / 2 ≤ divHalfEven n d / 10 ^ 28 ↔ 10 ^ 28 - 1 ≤ 2 * 10 ^ 28 * ((n : ℚ) / d / 10 ^ 28) := by
  have hdpos : (0 : ℚ) < d := Nat.cast_pos.2 hd
  have hpower : (0 : ℚ) < 10 ^ 28 := by positivity
  have heven : (5 * 10 ^ 27) % 2 = 0 := by norm_num
  have hleft : (1 : ℚ) / 2 ≤ divHalfEven n d / 10 ^ 28 ↔ 5 * 10 ^ 27 ≤ divHalfEven n d := by
    have hhalf : (1 : ℚ) / 2 = ((5 * 10 ^ 27 : Nat) : ℚ) / 10 ^ 28 := by norm_num
    rw [hhalf, div_le_div_iff_of_pos_right hpower, Nat.cast_le]
  have hright : (10 : ℚ) ^ 28 - 1 ≤ 2 * 10 ^ 28 * ((n : ℚ) / d / 10 ^ 28) ↔
      2 * (d * (5 * 10 ^ 27)) ≤ 2 * n + d := by
    rw [mul_assoc, mul_div_cancel₀ _ hpower.ne', mul_div_assoc', le_div_iff₀ hdpos]
    have hcast : ((2 * (d * (5 * 10 ^ 27)) : Nat) : ℚ) ≤ ((2 * n + d : Nat) : ℚ) ↔
        ((10 : ℚ) ^ 28 - 1) * d ≤ 2 * n := by
      push_cast
      constructor
      · intro h
        linarith
      · intro h
        linarith
    rw [← hcast, Nat.cast_le]
  rw [hleft, hright]
  exact le_divHalfEven_iff hd heven

/-- A quotient is one half or more from the half of the last of 28 digits below one half on. -/
theorem half_le_magnitude_iff {a b q : Decimal} (hb : b.digits ≠ 0) (h : a.div b = .ok q) :
    1 / 2 ≤ q.magnitude ↔ 10 ^ 28 - 1 ≤ 2 * 10 ^ 28 * (a.magnitude / b.magnitude) := by
  obtain ⟨-, hdivides⟩ := dividesTo_of_div hb h
  have hbpos : 0 < b.digits := Nat.pos_of_ne_zero hb
  cases hdivides with
  | exact value =>
    -- a number of 28 fraction digits is what it is rounded to
    obtain ⟨n, hn⟩ := exists_magnitude_eq q
    have hround := half_le_rounded_iff (n := n) Nat.one_pos
    rw [divHalfEven_one, Nat.cast_one, div_one, ← hn] at hround
    rwa [← value]
  | rounded k s r scales scale_le most range rest fits value =>
    have hquotient := quotient_eq hb scales
    rw [value]
    rcases lt_or_ge (a.magnitude / b.magnitude) 1 with hless | hone
    · -- below one there are 28 digits, and all of them fit
      have hfull := scale_eq_of_lt_one hb scales scale_le most hless
      subst hfull
      have hrange : divHalfEven (a.digits * power 10 k) b.digits < power 2 96 := by
        calc
          divHalfEven (a.digits * power 10 k) b.digits
              ≤ a.digits * power 10 k / b.digits + 1 := divHalfEven_le _ _
          _ ≤ power 10 28 := digits_lt_of_lt_one hb scales hless
          _ < power 2 96 := by decide
      rw [magnitude_of_fit fits hrange scale_le, hquotient]
      exact half_le_rounded_iff hbpos
    · -- a quotient of one or more is not rounded below one
      have hgreat : power 10 s ≤ divHalfEven (a.digits * power 10 k) b.digits := by
        refine Nat.le_trans ?_ (le_divHalfEven _ _)
        rw [hquotient, div_div, one_le_div (by positivity), ← cast_power] at hone
        rw [Nat.le_div_iff_mul_le hbpos, Nat.mul_comm]
        exact_mod_cast hone
      have hr := one_le_magnitude_of_fit fits hgreat
      exact iff_of_true (by linarith) (by linarith)

/-! ## Prices that stay positive -/

theorem IsNearest.one_le_iff {x : ℚ} {n : ℤ} (h : IsNearest x n) : 1 ≤ n ↔ 1 / 2 ≤ x := by
  obtain ⟨hlow, hhigh⟩ := abs_le.1 h.near
  constructor
  · intro hn
    have hcast : (1 : ℚ) ≤ n := by exact_mod_cast hn
    linarith
  · intro hx
    -- one half is rounded up to one, and no greater number is rounded further down
    have hone : IsNearest (1 / 2) 1 := by
      refine ⟨?_, ?_⟩
      · norm_num
      · intro _
        norm_num
    exact hone.mono h hx

protected theorem mul_comm (a b : Decimal) : a.mul b = b.mul a := by
  have hsign : (a.negative != b.negative) = (b.negative != a.negative) := Bool.xor_comm _ _
  have hzero : (a.digits = 0 ∨ b.digits = 0) ↔ (b.digits = 0 ∨ a.digits = 0) := or_comm
  have hshort : (a.isShort = true ∧ b.isShort = true) ↔ (b.isShort = true ∧ a.isShort = true) :=
    and_comm
  rw [mul, mul, hsign, Nat.mul_comm a.digits, Nat.add_comm a.scale]
  simp only [← and_assoc, hzero, hshort]

/-- A positive price is not rounded below zero.  It stays positive from half a tick on, up to the
rounding of the quotient. -/
theorem roundToTick_pos_iff {price tick c : Decimal} (hprice : zero < price) (htick : zero < tick)
    (h : price.roundToTick tick = .ok c) :
    zero ≤ c ∧ (zero < c ↔ (10 ^ 28 - 1) * tick.value ≤ 2 * 10 ^ 28 * price.value) := by
  obtain ⟨hpsign, -⟩ := pos_iff.1 hprice
  obtain ⟨htsign, htdigits⟩ := pos_iff.1 htick
  have htvalue : 0 < tick.value := pos_iff_value.1 htick
  have hpvalue : 0 < price.value := pos_iff_value.1 hprice
  rw [roundToTick, if_neg (not_le.2 htick)] at h
  obtain ⟨q, hq, hc⟩ := Fault.bind_eq_ok.1 h
  obtain ⟨n, hn, hwhole⟩ := isNearest_roundWhole q
  have hqvalue : q.value = q.magnitude := by
    obtain ⟨hsign, -⟩ := dividesTo_of_div htdigits hq
    rw [hsign, hpsign, htsign]
    simp [signFactor]
  have hcount : 1 ≤ n ↔ (10 ^ 28 - 1) * tick.value ≤ 2 * 10 ^ 28 * price.value := by
    rw [hn.one_le_iff, hqvalue, half_le_magnitude_iff htdigits hq, ← abs_value, ← abs_value,
      abs_of_pos hpvalue, abs_of_pos htvalue, mul_div_assoc', le_div_iff₀ htvalue]
  have hnonneg : 0 ≤ n := by
    refine (IsNearest.of_int 0).mono hn ?_
    rw [hqvalue, Int.cast_zero]
    exact q.magnitude_nonneg
  rw [← hcount]
  rcases hnonneg.lt_or_eq with hpos | hzero
  · -- at least one tick is left, and a tick is positive
    have hone : one ≤ q.roundWhole := by
      have hvalue : one.value = (1 : Nat) := value_whole _
      rw [le_iff_value, hwhole, hvalue]
      exact_mod_cast hpos
    rw [Decimal.mul_comm] at hc
    have hle : tick ≤ c := le_mul_of_one_le htick hone hc
    have hcpos : zero < c := Int.lt_of_lt_of_le htick hle
    exact ⟨Int.le_of_lt hcpos, iff_of_true hcpos hpos⟩
  · have hdigits : q.roundWhole.digits = 0 := by
      rw [← magnitude_eq_zero_iff, ← abs_value, hwhole, ← hzero, Int.cast_zero, abs_zero]
    rw [mul, if_pos (.inl hdigits)] at hc
    cases hc
    refine ⟨Int.le_refl _, iff_of_false (Int.lt_irrefl _) ?_⟩
    omega

end Decimal

/-! ## Orders of accepted entries -/

/-- The entry order of an accepted plan whose price is a limit has a price that is not negative.  It is
positive if the requested price is half a tick or more, or if there are no ticks; otherwise it is zero,
unless the quotient of the two is so near to one half that it is rounded to it. -/
theorem Planner.accepted_price_pos_iff {ρ : Type} {p : Planner ρ} {oco : String} {r : EntryRequest}
    {state : ρ} {plan : EntryPlan} (hkind : r.kind.isPriceBased = true)
    (h : (p.build oco r state).plan = .ok plan) (haccepted : plan.accepted = true) :
    ∃ order, plan.entryOrder = some order ∧ .zero ≤ order.price ∧
      (.zero < order.price ↔ r.tickSize ≤ .zero ∨
        (10 ^ 28 - 1) * r.tickSize.value ≤ 2 * 10 ^ 28 * r.price.value) := by
  rcases plan_build_cases h with ⟨reason, rfl⟩ | ⟨entry, stop, hpasses, -, rfl⟩
  · cases haccepted
  · have hprice : .zero < r.price := Decimal.not_le.1 fun hle => hpasses.price ⟨hkind, hle⟩
    have hentry := hpasses.entering
    rw [entryPrice, if_pos hkind] at hentry
    refine ⟨_, rfl, ?_⟩
    show .zero ≤ entry ∧ (.zero < entry ↔ _)
    by_cases htick : r.tickSize ≤ .zero
    · -- without ticks the order has the price of the request
      rw [Decimal.roundToTick, if_pos htick] at hentry
      cases hentry
      exact ⟨Int.le_of_lt hprice, iff_of_true hprice (.inl htick)⟩
    · have hrounded := Decimal.roundToTick_pos_iff hprice (Decimal.not_le.1 htick) hentry
      refine ⟨hrounded.1, hrounded.2.trans ?_⟩
      rw [or_iff_right htick]

/-- A price of exactly half a tick is rounded to the tick. -/
theorem Planner.accepted_price_pos_iff_of_half_tick :
    let p := Planner.unguarded 2 (FixedDistance.trailing ⟨.quarter⟩)
    let r : EntryRequest :=
      ⟨⟨⟨2025, 9, 2⟩, ⟨36000, 0, by decide, by decide⟩⟩, "ES", .long, .limit,
        ⟨false, 125, 3, by decide, by decide⟩, .defaults, .quarter⟩
    ∃ plan order, (p.build "g" r ()).plan = .ok plan ∧ plan.accepted = true ∧
      plan.entryOrder = some order ∧ .zero < order.price := by
  intro p r
  have hplan : ∃ plan, (p.build "g" r ()).plan = .ok plan ∧ plan.accepted = true :=
    ⟨Planner.orders r 2 .quarter ⟨true, 225, 2, by decide, by decide⟩ "g", by decide +kernel, rfl⟩
  obtain ⟨plan, hplan, haccepted⟩ := hplan
  obtain ⟨order, horder, -, hpos⟩ := Planner.accepted_price_pos_iff rfl hplan haccepted
  refine ⟨plan, order, hplan, haccepted, horder, hpos.2 (.inr ?_)⟩
  have hprice : r.price.value = (125 : Int) / 10 ^ 3 := Decimal.value_eq_coeff _
  have htick : r.tickSize.value = (25 : Int) / 10 ^ 2 := Decimal.value_eq_coeff _
  rw [hprice, htick]
  norm_num

/-- A positive price of a tenth of a tick is accepted, and the order for it has a price of zero. -/
theorem Planner.accepted_price_not_positive :
    let p := Planner.unguarded 2 (FixedDistance.trailing ⟨.quarter⟩)
    let r : EntryRequest :=
      ⟨⟨⟨2025, 9, 2⟩, ⟨36000, 0, by decide, by decide⟩⟩, "ES", .long, .limit,
        ⟨false, 1, 1, by decide, by decide⟩, .defaults, .one⟩
    .zero < r.price ∧
      ∃ plan order, (p.build "g" r ()).plan = .ok plan ∧ plan.accepted = true ∧
        plan.entryOrder = some order ∧ order.kind = .limit ∧ ¬.zero < order.price := by
  intro p r
  refine ⟨by decide, Planner.orders r 2 .zero ⟨true, 10, 0, by decide, by decide⟩ "g", _,
    by decide +kernel, rfl, rfl, rfl, by decide⟩

end EntryGate
