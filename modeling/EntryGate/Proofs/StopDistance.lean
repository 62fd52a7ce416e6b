import EntryGate.Proofs.PlanOutcomes
import EntryGate.Proofs.TickRounding

/-!
# The distance of the stop from the entry

A planner that trails at a fixed distance puts the stop of an entry a number of ticks away from it.
The entry is rounded to ticks before, and the stop after, so that the distance is a whole number of
ticks, and the number of ticks that the profile asks for need not be one.  For numbers of up to eight
fraction digits all that lies between the two roundings is exact.

* `Decimal.Places` are the numbers of so many fraction digits, and `Decimal.exists_value_of_places` says
  which of them are decimals;
* `EntryRequest.Moderate` are the requests that this file is about;
* `EntryRequest.exists_stop` is the stop for an entry that is on a tick;
* `Planner.stop_distance` says which entries are accepted, and where their orders are.
-/

namespace EntryGate
namespace Decimal

/-! ## Fraction digits -/

/-- The number can be written with `s` fraction digits. -/
def Places (s : Nat) (x : ℚ) : Prop :=
  ∃ n : ℤ, x * 10 ^ s = n

namespace Places

variable {s t : Nat} {x y : ℚ}

theorem of_int (s : Nat) (n : ℤ) : Places s n := by
  refine ⟨n * 10 ^ s, ?_⟩
  push_cast
  rfl

theorem add (hx : Places s x) (hy : Places s y) : Places s (x + y) := by
  rcases hx with ⟨m, hm⟩
  rcases hy with ⟨n, hn⟩
  refine ⟨m + n, ?_⟩
  rw [add_mul, hm, hn, Int.cast_add]

theorem mul (hx : Places s x) (hy : Places t y) : Places (s + t) (x * y) := by
  rcases hx with ⟨m, hm⟩
  rcases hy with ⟨n, hn⟩
  refine ⟨m * n, ?_⟩
  rw [pow_add, mul_mul_mul_comm, hm, hn, Int.cast_mul]

theorem int_mul (n : ℤ) (hx : Places s x) : Places s (n * x) := by
  have hproduct := (of_int 0 n).mul hx
  rwa [Nat.zero_add] at hproduct

theorem mono (hx : Places s x) (h : s ≤ t) : Places t x := by
  rcases Nat.exists_eq_add_of_le h with ⟨e, rfl⟩
  have hone := hx.mul (of_int e 1)
  rwa [Int.cast_one, mul_one] at hone

theorem signed (hx : Places s x) (negative : Bool) : Places s (signFactor negative * x) := by
  cases negative with
  | false => simpa [signFactor] using hx
  | true => simpa [signFactor] using hx.int_mul (-1)

/-- A positive number is at least one unit of its last digit. -/
theorem one_le_mul (hx : Places s x) (hpos : 0 < x) : 1 ≤ x * 10 ^ s := by
  rcases hx with ⟨n, hn⟩
  have hscaled : 0 < x * 10 ^ s := by positivity
  rw [hn] at hscaled ⊢
  exact_mod_cast hscaled

end Places

theorem places_value (a : Decimal) {s : Nat} (h : a.scale ≤ s) : Places s a.value := by
  have hplaces : Places a.scale a.value := by
    refine ⟨a.coeff, ?_⟩
    rw [value_eq_coeff, div_mul_cancel₀ _ (by positivity)]
  exact hplaces.mono h

/-- A number of at most 28 fraction digits is a decimal, unless it is too great for them. -/
theorem exists_value_of_places {s : Nat} {x : ℚ} (hx : Places s x) (hs : s ≤ 28)
    (hbound : |x| * 10 ^ s < 2 ^ 96) : ∃ r : Decimal, r.value = x := by
  rcases hx with ⟨n, hn⟩
  have hpower : (0 : ℚ) < 10 ^ s := by positivity
  have hbits : n.natAbs < power 2 96 := by
    have hcast : ((n.natAbs : Nat) : ℚ) < ((power 2 96 : Nat) : ℚ) := by
      calc
        ((n.natAbs : Nat) : ℚ) = |(n : ℚ)| := by rw [Nat.cast_natAbs, Int.cast_abs]
        _ = |x| * 10 ^ s := by rw [← hn, abs_mul, abs_of_pos hpower]
        _ < 2 ^ 96 := hbound
        _ = ((power 2 96 : Nat) : ℚ) := (Nat.cast_pow 2 96).symm
    exact_mod_cast hcast
  obtain ⟨r, hr⟩ := exists_value hbits hs
  refine ⟨r, ?_⟩
  rw [hr, ← hn, mul_div_cancel_right₀ _ hpower.ne']

/-- At most eight fraction digits, and not more than a million. -/
structure Moderate (a : Decimal) : Prop where
  places : Places 8 a.value
  bound : |a.value| ≤ 10 ^ 6

/-- Moderate prices and tick sizes have few enough digits to be rounded to the nearest multiple. -/
theorem Moderate.commensurable {price tick : Decimal} (hprice : price.Moderate) (htick : tick.Moderate)
    (hpos : 0 < tick.value) : Commensurable (10 ^ 25) price tick := by
  rcases hprice.places with ⟨p, hp⟩
  rcases htick.places with ⟨t, ht⟩
  have hpower : (0 : ℚ) < 10 ^ 8 := by positivity
  have hsmall : ∀ {a : Decimal} {n : ℤ}, a.Moderate → a.value * 10 ^ 8 = n → |n| < 10 ^ 25 := by
    intro a n ha hn
    have hcast : |(n : ℚ)| < 10 ^ 25 := by
      calc
        |(n : ℚ)| = |a.value| * 10 ^ 8 := by rw [← hn, abs_mul, abs_of_pos hpower]
        _ ≤ 10 ^ 6 * 10 ^ 8 := mul_le_mul_of_nonneg_right ha.bound hpower.le
        _ < 10 ^ 25 := by norm_num
    exact_mod_cast hcast
  have htpos : 0 < t := by
    have hscaled : 0 < tick.value * 10 ^ 8 := by positivity
    rw [ht] at hscaled
    exact_mod_cast hscaled
  refine ⟨8, p, t, by decide, hsmall hprice hp, htpos, ?_, ?_, ?_⟩
  · exact (le_abs_self t).trans_lt (hsmall htick ht)
  · rw [← hp, mul_div_cancel_right₀ _ hpower.ne']
  · rw [← ht, mul_div_cancel_right₀ _ hpower.ne']

/-- Rounding a number of ticks that is a decimal itself.  The quotient is exact, so that the only rounding
is that to a whole number. -/
theorem roundToTick_of_places {price tick : Decimal} {s t : Nat} {x : ℚ} (htick : zero < tick)
    (hprice : price.value = x * tick.value) (hx : Places s x) (hs : s ≤ 28)
    (hxbound : |x| * 10 ^ s < 2 ^ 96) (hplaces : Places t tick.value) (ht : t ≤ 28)
    (hbound : (|x * tick.value| + tick.value / 2) * 10 ^ t < 2 ^ 96) :
    ∃ c k, price.roundToTick tick = .ok c ∧ IsNearest x k ∧ c.value = k * tick.value := by
  have hpos : 0 < tick.value := pos_iff_value.1 htick
  have hquotient : price.value / tick.value = x := by
    rw [hprice, mul_div_cancel_right₀ _ hpos.ne']
  obtain ⟨exact, hexact⟩ := exists_value_of_places hx hs hxbound
  obtain ⟨q, hq, hqvalue⟩ := div_of_value (pos_iff.1 htick).2 (hexact.trans hquotient.symm)
  rw [hquotient] at hqvalue
  obtain ⟨k, hk, -⟩ := isNearest_roundWhole q
  have hnear : IsNearest x k := by
    rw [← hqvalue]
    exact hk
  obtain ⟨r, hr⟩ : ∃ r : Decimal, r.value = k * tick.value := by
    refine exists_value_of_places (hplaces.int_mul k) ht (lt_of_le_of_lt ?_ hbound)
    rw [← hquotient, hprice] at hnear
    exact mul_le_mul_of_nonneg_right (hnear.abs_mul_le hpos) (by positivity)
  obtain ⟨c, hc, hcvalue⟩ := roundToTick_of_div htick hq hk hr
  exact ⟨c, k, hc, hnear, hcvalue⟩

/-- A whole number moved by `n` to one side and rounded is moved by a whole number, which is at most one
half away from `n`. -/
theorem IsNearest.exists_gap {m k : ℤ} {n : ℚ} {negative : Bool}
    (h : IsNearest (m + signFactor negative * n) k) :
    ∃ gap : ℤ, (k : ℚ) = m + signFactor negative * gap ∧ |(gap : ℚ) - n| ≤ 1 / 2 := by
  cases negative with
  | false =>
    refine ⟨k - m, ?_, ?_⟩
    · simp [signFactor]
    · have hform : ((k - m : ℤ) : ℚ) - n = -(m + signFactor false * n - k) := by
        rw [signFactor, if_neg Bool.false_ne_true, Int.cast_sub]
        ring
      rw [hform, abs_neg]
      exact h.near
  | true =>
    refine ⟨m - k, ?_, ?_⟩
    · simp [signFactor]
    · have hform : ((m - k : ℤ) : ℚ) - n = m + signFactor true * n - k := by
        rw [signFactor, if_pos rfl, Int.cast_sub]
        ring
      rw [hform]
      exact h.near

end Decimal

/-! ## The stop of a request -/

/-- The number of ticks that a profile asks for: its first parameter if that is positive, and
otherwise ten. -/
def TrailingProfile.ticks (p : TrailingProfile) : ℚ :=
  if 0 < p.param1.value then p.param1.value else 10

namespace TrailingProfile

variable {p : TrailingProfile}

theorem ticks_pos (p : TrailingProfile) : 0 < p.ticks := by
  rw [ticks]
  split
  · next hpos => exact hpos
  · norm_num

theorem places_ticks (h : p.param1.Moderate) : Decimal.Places 8 p.ticks := by
  rw [ticks]
  split
  · exact h.places
  · exact_mod_cast Decimal.Places.of_int 8 10

theorem ticks_le (h : p.param1.Moderate) : p.ticks ≤ 10 ^ 6 := by
  rw [ticks]
  split
  · exact (le_abs_self _).trans h.bound
  · norm_num

end TrailingProfile

open Decimal (Places IsNearest signFactor)

/-- The distance of a moderate number of moderate ticks is computed exactly. -/
theorem FixedDistance.exists_distance {tick : Decimal} {profile : TrailingProfile}
    (htick : .zero < tick) (ht : tick.Moderate) (hp : profile.param1.Moderate) :
    ∃ d, FixedDistance.distance ⟨tick⟩ profile = .ok d ∧ d.value = profile.ticks * tick.value := by
  have hticks : (if profile.param1 ≤ .zero then Decimal.ten else profile.param1).value =
      profile.ticks := by
    rw [TrailingProfile.ticks]
    by_cases hle : profile.param1 ≤ .zero
    · have hten : Decimal.ten.value = (10 : Nat) := Decimal.value_whole _
      have hnone : ¬0 < profile.param1.value := by
        rw [← Decimal.pos_iff_value]
        exact Decimal.not_lt.2 hle
      rw [if_pos hle, if_neg hnone, hten]
      norm_num
    · have hsome : 0 < profile.param1.value := Decimal.pos_iff_value.1 (Decimal.not_le.1 hle)
      rw [if_neg hle, if_pos hsome]
  obtain ⟨r, hr⟩ : ∃ r : Decimal, r.value = profile.ticks * tick.value := by
    refine Decimal.exists_value_of_places ((TrailingProfile.places_ticks hp).mul ht.places)
      (by decide) ?_
    have hbound : |profile.ticks * tick.value| ≤ 10 ^ 6 * 10 ^ 6 := by
      rw [abs_mul, abs_of_pos profile.ticks_pos]
      exact mul_le_mul (TrailingProfile.ticks_le hp) ht.bound (abs_nonneg _) (by norm_num)
    calc
      |profile.ticks * tick.value| * 10 ^ (8 + 8) ≤ 10 ^ 6 * 10 ^ 6 * 10 ^ (8 + 8) :=
        mul_le_mul_of_nonneg_right hbound (by norm_num)
      _ < 2 ^ 96 := by norm_num
  simp only [FixedDistance.distance]
  rw [if_pos htick, ← hticks]
  rw [← hticks] at hr
  exact Decimal.mul_of_value hr

namespace EntryRequest

/-- Price, tick size and the number of ticks are moderate, and the tick size is positive. -/
structure Moderate (r : EntryRequest) : Prop where
  price : r.price.Moderate
  tick : r.tickSize.Moderate
  tick_pos : .zero < r.tickSize
  param : r.profile.param1.Moderate

/-- The number of ticks from the entry to the stop before it is rounded: negative for a long position,
whose stop is below the entry. -/
def shift (r : EntryRequest) : ℚ :=
  signFactor r.side.isLong * r.profile.ticks

variable {r : EntryRequest} {m : ℤ} {entry : Decimal}

theorem places_shift (h : r.Moderate) : Places 8 r.shift :=
  (TrailingProfile.places_ticks h.param).signed _

theorem abs_shift_le (h : r.Moderate) : |r.shift| ≤ 10 ^ 6 := by
  rw [shift, abs_mul, Decimal.abs_signFactor, one_mul, abs_of_pos r.profile.ticks_pos]
  exact TrailingProfile.ticks_le h.param

/-- The entry on the tick nearest to a moderate price, as a price and as a number of ticks. -/
theorem abs_entry_le (h : r.Moderate) (hm : IsNearest (r.price.value / r.tickSize.value) m) :
    |m * r.tickSize.value| ≤ 2 * 10 ^ 6 ∧ |(m : ℚ)| ≤ 2 * 10 ^ 14 := by
  have htick : 0 < r.tickSize.value := Decimal.pos_iff_value.1 h.tick_pos
  have hprice : |m * r.tickSize.value| ≤ 2 * 10 ^ 6 := by
    have hle := hm.abs_mul_le htick
    have hpbound := h.price.bound
    have htbound := (le_abs_self _).trans h.tick.bound
    linarith
  refine ⟨hprice, ?_⟩
  -- a tick is at least one unit of the eighth digit
  have hunit := h.tick.places.one_le_mul htick
  calc
    |(m : ℚ)| ≤ |(m : ℚ)| * (r.tickSize.value * 10 ^ 8) :=
      le_mul_of_one_le_right (abs_nonneg _) hunit
    _ = |m * r.tickSize.value| * 10 ^ 8 := by rw [abs_mul, abs_of_pos htick, mul_assoc]
    _ ≤ 2 * 10 ^ 6 * 10 ^ 8 := mul_le_mul_of_nonneg_right hprice (by norm_num)
    _ = 2 * 10 ^ 14 := by norm_num

/-- The stop before it is rounded, as a price. -/
theorem abs_shifted_le (h : r.Moderate) (hm : IsNearest (r.price.value / r.tickSize.value) m) :
    |(m + r.shift) * r.tickSize.value| ≤ 2 * 10 ^ 6 + 10 ^ 12 := by
  obtain ⟨hprice, -⟩ := abs_entry_le h hm
  calc
    |(m + r.shift) * r.tickSize.value|
        ≤ |m * r.tickSize.value| + |r.shift * r.tickSize.value| := by
      rw [add_mul]
      exact abs_add_le _ _
    _ ≤ 2 * 10 ^ 6 + 10 ^ 6 * 10 ^ 6 := by
      refine add_le_add hprice ?_
      rw [abs_mul]
      exact mul_le_mul (abs_shift_le h) h.tick.bound (abs_nonneg _) (by norm_num)
    _ = 2 * 10 ^ 6 + 10 ^ 12 := by norm_num

/-- Going a distance to one side is exact if the result is a decimal. -/
theorem exists_offset {isLong : Bool} {distance raw : Decimal}
    (h : raw.value = entry.value + signFactor isLong * distance.value) :
    ∃ c, (if isLong then entry.sub distance else entry.add distance) = .ok c ∧ c.value = raw.value := by
  cases isLong with
  | true =>
    rw [signFactor, if_pos rfl, neg_one_mul, ← sub_eq_add_neg] at h
    rw [h]
    exact Decimal.sub_of_value h
  | false =>
    rw [signFactor, if_neg Bool.false_ne_true, one_mul] at h
    rw [h]
    exact Decimal.add_of_value h

/-- The stop for an entry on the nearest tick.  Everything up to the last rounding is exact. -/
theorem exists_stop (h : r.Moderate) (hm : IsNearest (r.price.value / r.tickSize.value) m)
    (hentry : entry.value = m * r.tickSize.value) :
    ∃ stop k, r.stop entry = .ok stop ∧ IsNearest (m + r.shift) k ∧
      stop.value = k * r.tickSize.value := by
  have hplaces : Places 8 (m + r.shift) := (Places.of_int 8 m).add (places_shift h)
  have hprice := abs_shifted_le h hm
  obtain ⟨distance, hdistance, hdvalue⟩ := FixedDistance.exists_distance h.tick_pos h.tick h.param
  -- the stop before it is rounded is a decimal of 16 fraction digits
  obtain ⟨raw, hraw⟩ : ∃ raw : Decimal, raw.value = (m + r.shift) * r.tickSize.value := by
    refine Decimal.exists_value_of_places (hplaces.mul h.tick.places) (by decide) ?_
    calc
      |(m + r.shift) * r.tickSize.value| * 10 ^ (8 + 8) ≤ (2 * 10 ^ 6 + 10 ^ 12) * 10 ^ (8 + 8) :=
        mul_le_mul_of_nonneg_right hprice (by norm_num)
      _ < 2 ^ 96 := by norm_num
  have hside : raw.value = entry.value + signFactor r.side.isLong * distance.value := by
    rw [hraw, hentry, hdvalue, shift]
    ring
  obtain ⟨c, hc, hcvalue⟩ := exists_offset hside
  -- and its number of ticks one of eight
  have hcount : |m + r.shift| * 10 ^ 8 < 2 ^ 96 := by
    have hle : |m + r.shift| ≤ 2 * 10 ^ 14 + 10 ^ 6 :=
      (abs_add_le _ _).trans (add_le_add (abs_entry_le h hm).2 (abs_shift_le h))
    calc
      |m + r.shift| * 10 ^ 8 ≤ (2 * 10 ^ 14 + 10 ^ 6) * 10 ^ 8 :=
        mul_le_mul_of_nonneg_right hle (by norm_num)
      _ < 2 ^ 96 := by norm_num
  have hrounded : (|(m + r.shift) * r.tickSize.value| + r.tickSize.value / 2) * 10 ^ 8 < 2 ^ 96 := by
    have htick : r.tickSize.value ≤ 10 ^ 6 := (le_abs_self _).trans h.tick.bound
    calc
      (|(m + r.shift) * r.tickSize.value| + r.tickSize.value / 2) * 10 ^ 8
          ≤ (2 * 10 ^ 6 + 10 ^ 12 + 10 ^ 6) * 10 ^ 8 :=
        mul_le_mul_of_nonneg_right (by linarith) (by norm_num)
      _ < 2 ^ 96 := by norm_num
  obtain ⟨stop, k, hstop, hk, hsvalue⟩ := Decimal.roundToTick_of_places h.tick_pos
    (hcvalue.trans hraw) hplaces (by decide) hcount h.tick.places (by decide) hrounded
  refine ⟨stop, k, ?_, hk, hsvalue⟩
  rw [EntryRequest.stop, hdistance]
  show (if r.side.isLong then entry.sub distance else entry.add distance) >>= _ = _
  rw [hc]
  exact hstop

/-- A stop that is a number of ticks away protects exactly if that number is positive. -/
theorem protects_iff_gap {stop : Decimal} {k gap : ℤ} (htick : 0 < r.tickSize.value)
    (hentry : entry.value = m * r.tickSize.value) (hstop : stop.value = k * r.tickSize.value)
    (hk : (k : ℚ) = m + signFactor r.side.isLong * gap) : r.Protects entry stop ↔ 0 < gap := by
  have hpos : (0 : ℚ) < gap ↔ 0 < gap := Int.cast_pos
  rw [Protects, ← hpos]
  cases hlong : r.side.isLong with
  | true =>
    rw [hlong, signFactor, if_pos rfl] at hk
    rw [if_pos rfl, Decimal.lt_iff_value, hentry, hstop, mul_lt_mul_iff_left₀ htick, hk, neg_one_mul,
      ← sub_eq_add_neg, sub_lt_self_iff]
  | false =>
    rw [hlong, signFactor, if_neg Bool.false_ne_true] at hk
    rw [if_neg Bool.false_ne_true, Decimal.lt_iff_value, hentry, hstop, mul_lt_mul_iff_left₀ htick,
      hk, one_mul, lt_add_iff_pos_right]

theorem abs_entry_sub_stop {stop : Decimal} {k gap : ℤ} (htick : 0 < r.tickSize.value)
    (hentry : entry.value = m * r.tickSize.value) (hstop : stop.value = k * r.tickSize.value)
    (hk : (k : ℚ) = m + signFactor r.side.isLong * gap) (hgap : 0 < gap) :
    |entry.value - stop.value| = gap * r.tickSize.value := by
  have hpos : (0 : ℚ) < gap := Int.cast_pos.2 hgap
  have hform : entry.value - stop.value =
      -(signFactor r.side.isLong * (gap * r.tickSize.value)) := by
    rw [hentry, hstop, hk]
    ring
  rw [hform, abs_neg, abs_mul, Decimal.abs_signFactor, one_mul, abs_of_pos (mul_pos hpos htick)]

end EntryRequest

/-! ## Plans -/

/-- A planner that trails at a fixed distance answers every moderate request with a price that reaches
the price gate.  More than half a tick is accepted and less is rejected, for both sides.  The entry of
an accepted plan is on the tick nearest to the price, and its stop is a whole number of ticks away, at
least one, and as many as the profile asks for up to one half. -/
theorem Planner.stop_distance {ρ : Type} {p : Planner ρ} {e : FixedDistance} {state : ρ}
    {r : EntryRequest} (htrailing : p.trailing = e.trailing) (hpasses : PassesSizing p state r)
    (hkind : r.kind.isPriceBased = true) (hprice : .zero < r.price) (hmoderate : r.Moderate)
    (oco : String) :
    ∃ plan, (p.build oco r state).plan = .ok plan ∧
      (1 / 2 < r.profile.ticks → plan.accepted = true) ∧
      (r.profile.ticks < 1 / 2 → plan = .rejected (sideReason r)) ∧
      (plan.accepted = true → ∃ entry stop, ∃ m k : ℤ,
        plan.entryOrder = some entry ∧ plan.stopOrder = some stop ∧
        IsNearest (r.price.value / r.tickSize.value) m ∧
        entry.price.value = m * r.tickSize.value ∧ stop.price.value = k * r.tickSize.value ∧
        r.Protects entry.price stop.price ∧
        r.tickSize.value ≤ |entry.price.value - stop.price.value| ∧
        |(|entry.price.value - stop.price.value| - r.profile.ticks * r.tickSize.value)| ≤
          r.tickSize.value / 2) := by
  have htick : 0 < r.tickSize.value := Decimal.pos_iff_value.1 hmoderate.tick_pos
  obtain ⟨entry, m, hentry, hm, hevalue⟩ :=
    Decimal.exists_roundToTick (hmoderate.price.commensurable hmoderate.tick htick)
  obtain ⟨stop, k, hstop, hk, hsvalue⟩ := EntryRequest.exists_stop hmoderate hm hevalue
  obtain ⟨gap, hgap, hnear⟩ := hk.exists_gap
  obtain ⟨hlow, hhigh⟩ := abs_le.1 hnear
  have hreaches : PassesPrice p state r entry stop := by
    refine ⟨hpasses, ?_, ?_, ?_⟩
    · exact fun hbad => Decimal.not_le.2 hprice hbad.2
    · rw [entryPrice, if_pos hkind]
      exact hentry
    · rw [stopPrice_of_fixedDistance htrailing]
      exact hstop
  have hside := EntryRequest.protects_iff_gap htick hevalue hsvalue hgap
  by_cases hpos : 0 < gap
  · have hone : (1 : ℚ) ≤ gap := by exact_mod_cast hpos
    have habs := EntryRequest.abs_entry_sub_stop htick hevalue hsvalue hgap hpos
    refine ⟨_, plan_build_of_protects hreaches (hside.2 hpos) oco, fun _ => rfl, ?_, ?_⟩
    · intro hless
      linarith
    · intro _
      refine ⟨_, _, m, k, rfl, rfl, hm, hevalue, hsvalue, hside.2 hpos, ?_, ?_⟩
      · show r.tickSize.value ≤ |entry.value - stop.value|
        rw [habs]
        exact le_mul_of_one_le_left htick.le hone
      · show |(|entry.value - stop.value| - r.profile.ticks * r.tickSize.value)| ≤ _
        rw [habs, ← sub_mul, abs_mul, abs_of_pos htick]
        have hscaled := mul_le_mul_of_nonneg_right hnear htick.le
        linarith
  · have hnone : (gap : ℚ) ≤ 0 := by exact_mod_cast Int.not_lt.1 hpos
    refine ⟨_, plan_build_of_not_protects hreaches (mt hside.1 hpos) oco, ?_, fun _ => rfl, ?_⟩
    · intro hmore
      linarith
    · intro haccepted
      cases haccepted

/-- A short entry with a stop two and a half ticks away, which lies between two ticks.  The planner has
a tick size of its own, which does not count. -/
theorem Planner.stop_distance_of_two_and_a_half :
    let p := Planner.unguarded 2 (FixedDistance.trailing ⟨.one⟩)
    let r : EntryRequest :=
      ⟨⟨⟨2025, 9, 2⟩, ⟨36000, 0, by decide, by decide⟩⟩, "ES", .short, .stopLimit,
        ⟨false, 1001, 1, by decide, by decide⟩,
        ⟨.atrMultiple, ⟨false, 25, 1, by decide, by decide⟩, .zero⟩, .quarter⟩
    PassesSizing p () r ∧ .zero < r.price ∧ r.Moderate ∧
      ∃ plan entry stop, (p.build "g" r ()).plan = .ok plan ∧ plan.accepted = true ∧
        plan.entryOrder = some entry ∧ plan.stopOrder = some stop ∧
        entry.price < stop.price ∧ |(|entry.price.value - stop.price.value| - 5 / 8)| ≤ 1 / 8 := by
  intro p r
  have hprice : r.price.value = (1001 : Int) / 10 ^ 1 := Decimal.value_eq_coeff _
  have htick : r.tickSize.value = (25 : Int) / 10 ^ 2 := Decimal.value_eq_coeff _
  have hparam : r.profile.param1.value = (25 : Int) / 10 ^ 1 := Decimal.value_eq_coeff _
  have hpasses : PassesSizing p () r :=
    Planner.passesSizing_unguarded _ (by decide) (by decide) (by decide)
  have hmoderate : r.Moderate := by
    refine ⟨⟨Decimal.places_value _ (by decide), ?_⟩, ⟨Decimal.places_value _ (by decide), ?_⟩,
      by decide, ⟨Decimal.places_value _ (by decide), ?_⟩⟩
    · rw [hprice, abs_of_nonneg (by norm_num)]
      norm_num
    · rw [htick, abs_of_nonneg (by norm_num)]
      norm_num
    · rw [hparam, abs_of_nonneg (by norm_num)]
      norm_num
  have hticks : r.profile.ticks = 5 / 2 := by
    rw [TrailingProfile.ticks, hparam, if_pos (by norm_num)]
    norm_num
  obtain ⟨plan, hplan, haccepts, -, horders⟩ :=
    Planner.stop_distance rfl hpasses rfl (by decide) hmoderate "g"
  have haccepted : plan.accepted = true := by
    refine haccepts ?_
    rw [hticks]
    norm_num
  obtain ⟨entry, stop, m, k, hentry, hstop, -, -, -, hside, -, hdistance⟩ := horders haccepted
  refine ⟨hpasses, by decide, hmoderate, plan, entry, stop, hplan, haccepted, hentry, hstop, hside, ?_⟩
  rw [hticks, htick] at hdistance
  norm_num at hdistance ⊢
  exact hdistance

end EntryGate
