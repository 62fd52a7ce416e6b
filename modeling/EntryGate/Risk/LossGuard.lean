import EntryGate.Risk.Lockout

/-!
# Loss streak guard

A guard that only counts: after a number of consecutive losses it refuses every entry until a win or
a reset.  Its tag is both its name and the reason it gives.
-/

namespace EntryGate

/-- A guard and its count of consecutive losses. -/
structure LossGuard where
  maxLosses : Nat
  tag : String
  streak : Nat
deriving DecidableEq, Repr

namespace LossGuard

def defaultTag : String := "LossStreak"

/-- A guard without losses.  The limit is at least one, and the tag is not empty. -/
def new (maxLosses : Nat) (tag : String) : LossGuard :=
  { maxLosses := max maxLosses 1
    tag := if tag.isEmpty then defaultTag else tag
    streak := 0 }

def isBlocked (g : LossGuard) : Bool :=
  decide (g.maxLosses ≤ g.streak)

def state (g : LossGuard) : LockoutState :=
  if g.isBlocked then .lockedOut else .none

def reset (g : LossGuard) : LossGuard :=
  { g with streak := 0 }

/-- Takes note of the outcome of a trade. -/
def record (g : LossGuard) (win : Bool) : LossGuard :=
  if win then g.reset else { g with streak := Lockout.nextStreak g.streak }

end LossGuard

end EntryGate
