/-!
# Faults

The ways in which an operation can be unable to produce a value.  A fault is not a refusal: a
refused entry is an ordinary answer with a reason, whereas a fault means that a price, an instant or
a size left the range that can be represented.  Operations that change state say which part of the change
stands when a fault occurs.
-/

namespace EntryGate

/-- Why an operation could not produce a value. -/
inductive Fault where
  | additionOverflow
  | subtractionOverflow
  | multiplicationOverflow
  | divisionOverflow
  | divisionByZero
  | clockOverflow
  /-- The date on the exchange's clock is beyond the supported years. -/
  | localTimeOverflow
  /-- A log for so many events would not fit into memory. -/
  | capacityOverflow
deriving DecidableEq, Repr

namespace Fault

/-- The text under which a fault is reported. -/
def message : Fault → String
  | .additionOverflow => "Addition overflowed"
  | .subtractionOverflow => "Subtraction overflowed"
  | .multiplicationOverflow => "Multiplication overflowed"
  | .divisionOverflow => "Division overflowed"
  | .divisionByZero => "Division by zero"
  | .clockOverflow => "`DateTime + TimeDelta` overflowed"
  | .localTimeOverflow => "Local time out of range for `NaiveDateTime`"
  | .capacityOverflow => "capacity overflow"

/-- A computation in two steps succeeds if the first step does and the second one with its result. -/
theorem bind_eq_ok {α β : Type} {x : Except Fault α} {f : α → Except Fault β} {b : β} :
    x >>= f = .ok b ↔ ∃ a, x = .ok a ∧ f a = .ok b := by
  cases x with
  | error fault => simp [bind, Except.bind]
  | ok a => simp [bind, Except.bind]

end Fault

end EntryGate
