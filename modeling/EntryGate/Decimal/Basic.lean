import EntryGate.Fault
import EntryGate.Power

/-!
# Decimals

Prices, limits and amounts of money are decimals: a sign, digits that make up a number of at most 96
bits, and a scale, the number of fraction digits, of at most 28.  The scale is part of the value
(`1.0` and `1.00` are two decimals) and is kept by reading, printing and most of the arithmetic, but
it plays no part in comparisons.  Nor does the sign of a zero: what rounds to zero from below may
keep its minus sign, and is still neither less nor greater than any other zero.

* `Decimal.coeff` is the number that the sign and the digits make up;
* `Decimal.units` is the value counted in units of `10 ^ -28`, an exact integer;
* the order relations compare `units`, so every fact about them is a fact about integers;
* `Decimal.max` and `Decimal.min` keep the left operand, with its scale, when the two are equal.
-/

namespace EntryGate

/-- A decimal number: `digits * 10 ^ -scale`, below zero where `negative`. -/
structure Decimal where
  negative : Bool
  digits : Nat
  scale : Nat
  digits_lt : digits < power 2 96
  scale_le : scale ≤ 28
deriving DecidableEq

namespace Decimal

/-! ## Construction -/

/-- The decimal with the given sign, digits and scale, if these are in range. -/
def ofDigits? (negative : Bool) (digits scale : Nat) : Option Decimal :=
  if h : digits < power 2 96 ∧ scale ≤ 28 then some ⟨negative, digits, scale, h.1, h.2⟩ else none

/-- The decimal with the given coefficient and scale, if both are in range.  A zero has no minus
sign. -/
def ofParts? (coeff : Int) (scale : Nat) : Option Decimal :=
  ofDigits? (decide (coeff < 0)) coeff.natAbs scale

/-- A whole number below the bound. -/
def whole (negative : Bool) (n : Nat) (h : n < power 2 96) : Decimal :=
  ⟨negative, n, 0, h, by decide⟩

def zero : Decimal := ⟨false, 0, 0, by decide, by decide⟩

def one : Decimal := ⟨false, 1, 0, by decide, by decide⟩

def ten : Decimal := ⟨false, 10, 0, by decide, by decide⟩

/-- A quarter, written with two fraction digits. -/
def quarter : Decimal := ⟨false, 25, 2, by decide, by decide⟩

instance : Inhabited Decimal := ⟨zero⟩

/-- A whole number of contracts as a decimal.  Counts beyond the range of the digits cannot take
part in arithmetic. -/
def ofCount (n : Nat) : Except Fault Decimal :=
  if h : n < power 2 96 then .ok (whole false n h) else .error .multiplicationOverflow

/-- The additive inverse, at the same scale. -/
def neg (a : Decimal) : Decimal :=
  { a with negative := !a.negative }

/-- The same decimal, without the minus sign if it is a zero. -/
def unsignedZero (a : Decimal) : Decimal :=
  { a with negative := a.negative && a.digits != 0 }

/-- The sign and the digits as one integer. -/
def coeff (a : Decimal) : Int :=
  if a.negative then -(a.digits : Int) else a.digits

/-! ## Order -/

/-- The value in units of `10 ^ -28`. -/
def units (a : Decimal) : Int :=
  a.coeff * power 10 (28 - a.scale)

instance : LE Decimal := ⟨fun a b => a.units ≤ b.units⟩

instance : LT Decimal := ⟨fun a b => a.units < b.units⟩

instance (a b : Decimal) : Decidable (a ≤ b) := inferInstanceAs (Decidable (a.units ≤ b.units))

instance (a b : Decimal) : Decidable (a < b) := inferInstanceAs (Decidable (a.units < b.units))

/-- Whether two decimals have the same value, whatever their scales. -/
def sameValue (a b : Decimal) : Bool :=
  a.units == b.units

/-- The greater of two decimals, the left one when they have the same value. -/
protected def max (a b : Decimal) : Decimal :=
  if a < b then b else a

/-- The lesser of two decimals, the left one when they have the same value. -/
protected def min (a b : Decimal) : Decimal :=
  if b < a then b else a

theorem le_iff_units {a b : Decimal} : a ≤ b ↔ a.units ≤ b.units := Iff.rfl

theorem lt_iff_units {a b : Decimal} : a < b ↔ a.units < b.units := Iff.rfl

theorem not_le {a b : Decimal} : ¬a ≤ b ↔ b < a := by
  rw [le_iff_units, lt_iff_units, Int.not_le]

theorem not_lt {a b : Decimal} : ¬a < b ↔ b ≤ a := by
  rw [le_iff_units, lt_iff_units, Int.not_lt]

theorem units_max (a b : Decimal) : (a.max b).units = max a.units b.units := by
  rw [Decimal.max]
  by_cases h : a < b
  · rw [if_pos h]
    exact (Int.max_eq_right (Int.le_of_lt h)).symm
  · rw [if_neg h]
    exact (Int.max_eq_left (not_lt.1 h)).symm

theorem units_min (a b : Decimal) : (a.min b).units = min a.units b.units := by
  rw [Decimal.min]
  by_cases h : b < a
  · rw [if_pos h]
    exact (Int.min_eq_right (Int.le_of_lt h)).symm
  · rw [if_neg h]
    exact (Int.min_eq_left (not_lt.1 h)).symm

theorem le_max_left (a b : Decimal) : a ≤ a.max b := by
  rw [le_iff_units, units_max]
  exact Int.le_max_left _ _

theorem le_max_right (a b : Decimal) : b ≤ a.max b := by
  rw [le_iff_units, units_max]
  exact Int.le_max_right _ _

theorem max_eq_or (a b : Decimal) : a.max b = a ∨ a.max b = b := by
  rw [Decimal.max]
  split
  · exact .inr rfl
  · exact .inl rfl

theorem max_eq_left {a b : Decimal} (h : b ≤ a) : a.max b = a :=
  if_neg (not_lt.2 h)

theorem min_eq_or (a b : Decimal) : a.min b = a ∨ a.min b = b := by
  rw [Decimal.min]
  split
  · exact .inr rfl
  · exact .inl rfl

theorem pos_of_le {a b : Decimal} (ha : zero < a) (h : a ≤ b) : zero < b :=
  Int.lt_of_lt_of_le ha h

@[simp]
theorem units_zero : zero.units = 0 := by decide

@[simp]
theorem coeff_neg (a : Decimal) : a.neg.coeff = -a.coeff := by
  cases h : a.negative <;> simp [coeff, neg, h]

@[simp]
theorem units_neg (a : Decimal) : a.neg.units = -a.units := by
  rw [units, units, coeff_neg, ← Int.neg_mul]
  rfl

@[simp]
theorem coeff_unsignedZero (a : Decimal) : a.unsignedZero.coeff = a.coeff := by
  by_cases h : a.digits = 0 <;> simp [coeff, unsignedZero, h]

@[simp]
theorem natAbs_coeff (a : Decimal) : a.coeff.natAbs = a.digits := by
  cases h : a.negative <;> simp [coeff, h]

end Decimal

end EntryGate
