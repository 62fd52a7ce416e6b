/-!
# Powers

Powers of natural numbers, for scales and bounds.
-/

namespace EntryGate

/-- The product of `n` factors `base`. -/
def power (base n : Nat) : Nat :=
  Nat.pow base n

@[simp]
theorem power_zero (base : Nat) : power base 0 = 1 := rfl

theorem power_succ (base n : Nat) : power base (n + 1) = power base n * base := rfl

theorem power_add (base m n : Nat) : power base (m + n) = power base m * power base n :=
  Nat.pow_add base m n

theorem power_pos {base : Nat} (h : 0 < base) (n : Nat) : 0 < power base n :=
  Nat.pow_pos h

end EntryGate
