import EntryGate.Decimal.Arithmetic
import Mathlib.Algebra.Field.Rat
import Mathlib.Data.Rat.Cast.Defs

/-!
# Values of decimals

A decimal stands for a rational number, and an operation on decimals is exact if what it returns
stands for the result of the same operation on these numbers.

* `Decimal.value` is the number that a decimal stands for;
* `Decimal.Returns` says that an operation returns a decimal, and what holds of it;
* `Decimal.Exactly` says in addition which value the decimal has.  Several of them after one another
  follow a computation step by step, and say that it neither rounds nor ends in a fault.
-/

namespace EntryGate
namespace Decimal

/-- The number that a decimal stands for. -/
def value (a : Decimal) : ℚ :=
  a.units / power 10 28

@[simp]
theorem value_zero : zero.value = 0 := by
  rw [value, units_zero, Int.cast_zero, zero_div]

@[simp]
theorem value_neg (a : Decimal) : a.neg.value = -a.value := by
  rw [value, value, units_neg, Int.cast_neg, neg_div]

theorem power_ten_ne_zero (n : Nat) : (power 10 n : ℚ) ≠ 0 := by
  have hpos : 0 < power 10 n := power_pos (by decide) n
  exact_mod_cast hpos.ne'

theorem value_whole {n : Nat} (h : n < power 2 96) : (whole false n h).value = n := by
  have hunits : (whole false n h).units = (n : Int) * power 10 28 := rfl
  rw [value, hunits, Int.cast_mul, Int.cast_natCast, Int.cast_natCast]
  exact mul_div_cancel_right₀ _ (power_ten_ne_zero 28)

/-- A number of contracts keeps its value. -/
theorem value_of_ofCount {n : Nat} {c : Decimal} (h : ofCount n = .ok c) : c.value = n := by
  rw [ofCount] at h
  split at h
  · cases h
    exact value_whole _
  · cases h

/-! ## Exact operations -/

/-- The operation returns a decimal, and `k` holds of it. -/
def Returns (r : Except Fault Decimal) (k : Decimal → Prop) : Prop :=
  match r with
  | .ok c => k c
  | .error _ => False

/-- The operation returns a decimal of that value, and `k` holds of the decimal. -/
def Exactly (r : Except Fault Decimal) (x : ℚ) (k : Decimal → Prop) : Prop :=
  Returns r fun c => c.value = x ∧ k c

instance (r : Except Fault Decimal) (k : Decimal → Prop) [∀ c, Decidable (k c)] :
    Decidable (Returns r k) :=
  match r with
  | .ok c => inferInstanceAs (Decidable (k c))
  | .error _ => inferInstanceAs (Decidable False)

instance (r : Except Fault Decimal) (x : ℚ) (k : Decimal → Prop) [∀ c, Decidable (k c)] :
    Decidable (Exactly r x k) :=
  inferInstanceAs (Decidable (Returns r fun c => c.value = x ∧ k c))

theorem returns_iff {r : Except Fault Decimal} {k : Decimal → Prop} :
    Returns r k ↔ ∃ c, r = .ok c ∧ k c := by
  cases r with
  | ok c => simp [Returns]
  | error fault => simp [Returns]

theorem exactly_iff {r : Except Fault Decimal} {x : ℚ} {k : Decimal → Prop} :
    Exactly r x k ↔ ∃ c, r = .ok c ∧ c.value = x ∧ k c :=
  returns_iff

end Decimal
end EntryGate
