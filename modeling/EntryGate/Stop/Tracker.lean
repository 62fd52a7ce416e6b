import EntryGate.Intent
import EntryGate.Stop.Trailing

/-!
# Stop tracker

Follows the stop of one position from its entry on.  However a stop is computed or proposed, the
tracked stop only ever tightens.
-/

namespace EntryGate

/-- A position and its stop so far. -/
structure StopTracker where
  isLong : Bool
  entry : Decimal
  profile : TrailingProfile
  stop : Option Decimal
deriving DecidableEq

namespace StopTracker

/-- A position without a stop. -/
def new (isLong : Bool) (entry : Decimal) (profile : TrailingProfile) : StopTracker :=
  ⟨isLong, entry, profile, none⟩

/-- A position on a side; there is none on the flat side. -/
def forSide? (side : Side) (entry : Decimal) (profile : TrailingProfile) : Option StopTracker :=
  match side with
  | .flat => none
  | .long => some (new true entry profile)
  | .short => some (new false entry profile)

/-- Starts from a known stop, if it is positive. -/
def withStop (t : StopTracker) (stop : Decimal) : StopTracker :=
  if .zero < stop then { t with stop := some stop } else t

/-- The stop so far, or zero if there is none. -/
def prior (t : StopTracker) : Decimal :=
  t.stop.getD .zero

/-- Takes a stop that is tighter than the one so far. -/
def propose (t : StopTracker) (proposed : Decimal) : StopTracker × Decimal :=
  let next := tighten t.isLong t.prior proposed
  ({ t with stop := some next }, next)

/-- Computes the stop for the current price.  On a fault the tracker stays as it is. -/
def update (t : StopTracker) (trailing : Trailing) (current : Decimal) :
    StopTracker × Except Fault Decimal :=
  match trailing.stop ⟨t.entry, current, t.isLong, t.profile, t.prior⟩ with
  | .ok next =>
    let (t, next) := t.propose next
    (t, .ok next)
  | .error fault => (t, .error fault)

/-- Whether a price has reached the stop. -/
def isTriggered (t : StopTracker) (price : Decimal) : Bool :=
  match t.stop with
  | some stop => if t.isLong then decide (price ≤ stop) else decide (stop ≤ price)
  | none => false

end StopTracker

end EntryGate
