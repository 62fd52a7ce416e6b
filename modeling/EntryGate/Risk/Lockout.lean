import EntryGate.Intent
import EntryGate.Risk.Mode
import EntryGate.Time.Instant

/-!
# Lockout after losses

A lockout counts consecutive losses.  A first loss starts a cooling down, which restricts nothing;
as many losses as the threshold says lock trading out for the length of the cooldown.  Every further
loss at or above the threshold starts the cooldown again.  Wins end the streak and a cooling down,
but not a lockout: that one is lifted by the first poll after its expiry.

* `Lockout.new` repairs a threshold of zero and a cooldown that is not positive or too long;
* `Lockout.poll` asks whether trading is allowed, and lifts a lockout that has expired;
* `Lockout.record` takes note of a win or a loss, `Lockout.force` locks at once.
-/

namespace EntryGate

/-- How far a lockout has gone. -/
inductive LockoutPhase where
  | clear
  | coolingDown
  | lockedOut (expiry : Instant)
deriving DecidableEq

namespace LockoutPhase

def state : LockoutPhase → LockoutState
  | .clear => .none
  | .coolingDown => .coolingDown
  | .lockedOut _ => .lockedOut

/-- The expiry of a lockout. -/
def expiry? : LockoutPhase → Option Instant
  | .lockedOut t => some t
  | _ => none

def describe : LockoutPhase → String
  | .clear => "Clear"
  | .coolingDown => "CoolingDown"
  | .lockedOut t => "LockedOut \x7b until: " ++ t.render ++ " \x7d"

end LockoutPhase

/-- A lockout and its present state. -/
structure Lockout where
  mode : RiskMode
  threshold : Nat
  cooldown : Span
  streak : Nat
  phase : LockoutPhase
deriving DecidableEq

namespace Lockout

def defaultThreshold : Nat := 2

def defaultCooldownMinutes : Int := 15

/-- One week. -/
def maxCooldownMinutes : Int := 10080

/-- A threshold is at least one. -/
def repairThreshold (threshold : Nat) : Nat :=
  if threshold = 0 then 1 else threshold

/-- A cooldown is positive and at most a week. -/
def repairCooldown (cooldown : Span) : Span :=
  if cooldown ≤ ⟨0⟩ then .ofMinutes defaultCooldownMinutes
  else if .ofMinutes maxCooldownMinutes < cooldown then .ofMinutes maxCooldownMinutes
  else cooldown

/-- A lockout without losses. -/
def new (mode : RiskMode) (threshold : Nat) (cooldown : Span) : Lockout :=
  { mode := mode
    threshold := repairThreshold threshold
    cooldown := repairCooldown cooldown
    streak := 0
    phase := .clear }

/-- A lockout with the usual threshold and cooldown. -/
def withDefaults (mode : RiskMode) : Lockout :=
  new mode defaultThreshold (.ofMinutes defaultCooldownMinutes)

def state (l : Lockout) : LockoutState :=
  l.phase.state

/-- The expiry of a lockout that would start now. -/
def expiryFrom (l : Lockout) (now : Instant) : Instant :=
  now.addCapped l.cooldown

/-- Locks trading out, whatever the streak. -/
def force (l : Lockout) (now : Instant) : Lockout :=
  { l with phase := .lockedOut (l.expiryFrom now) }

/-- Lifts a lockout that has expired, together with its streak. -/
def refresh (l : Lockout) (now : Instant) : Lockout :=
  match l.phase with
  | .lockedOut t => if t ≤ now then { l with phase := .clear, streak := 0 } else l
  | _ => l

/-- Whether trading is allowed now. -/
def poll (l : Lockout) (now : Instant) : Lockout × Bool :=
  let l := l.refresh now
  (l, l.state.permitsTrading)

/-- One more loss; the count stays within its range. -/
def nextStreak (streak : Nat) : Nat :=
  min (streak + 1) Count.max

/-- Takes note of a win. -/
def recordWin (l : Lockout) : Lockout :=
  { l with
    streak := 0
    -- a lockout stays, without the streak that led to it
    phase := match l.phase with
      | .coolingDown => .clear
      | p => p }

/-- Takes note of a loss. -/
def recordLoss (l : Lockout) (now : Instant) : Lockout :=
  let streak := nextStreak l.streak
  if l.threshold ≤ streak then
    { l with streak := streak, phase := .lockedOut (l.expiryFrom now) }
  else if streak = 1 ∧ l.phase = .clear then
    { l with streak := streak, phase := .coolingDown }
  else { l with streak := streak }

/-- Takes note of the outcome of a trade. -/
def record (l : Lockout) (now : Instant) (win : Bool) : Lockout :=
  if win then l.recordWin else l.recordLoss now

/-- The reason for refusing an intent, if there is one. -/
def evaluate (l : Lockout) (now : Instant) (intent : PositionIntent) : Lockout × Option String :=
  if intent.symbol.isEmpty then (l, some "symbol missing")
  else
    let (l, ok) := l.poll now
    (l, if ok then none else some "risk lockout in effect")

/-- Settings and state, in words for a log. -/
def describe (l : Lockout) : String :=
  "LockoutEngine \x7b mode: " ++ l.mode.name ++ ", threshold: " ++ Text.integerText l.threshold
    ++ ", cooldown: " ++ l.cooldown.describe ++ ", loss_streak: " ++ Text.integerText l.streak
    ++ ", phase: " ++ l.phase.describe ++ " \x7d"

end Lockout

end EntryGate
