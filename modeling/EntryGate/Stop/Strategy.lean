import EntryGate.Stop.Trailing
import EntryGate.Text.Quoted

/-!
# Stop strategies

A strategy has an opinion on where the stop should be, or none.  Strategies form trees: a composite
takes the tightest opinion of its parts.  Held against the prior stop, a strategy becomes a way of
trailing.

* `StopStrategy.stop` is the opinion of a strategy;
* `StopStrategy.leaves` are the simple strategies of a tree, from left to right;
* `StopStrategy.ratchet` trails with a strategy.
-/

namespace EntryGate

/-- A tree of stop strategies. -/
inductive StopStrategy where
  /-- A number of ticks from the better of entry and price. -/
  | ticks (count : Nat) (tickSize : Decimal)
  /-- A fraction of the better of entry and price. -/
  | percent (fraction : Decimal)
  /-- The tightest opinion of several strategies. -/
  | composite (stops : List StopStrategy)

namespace StopStrategy

def name : StopStrategy → String
  | .ticks _ _ => "FixedTicks"
  | .percent _ => "Percent"
  | .composite _ => "Composite"

/-- The tighter of two stops, the first one if they have the same value. -/
def tighter (isLong : Bool) (a b : Decimal) : Decimal :=
  if isLong then a.max b else a.min b

/-- The tighter of two opinions. -/
def tighterOpinion (isLong : Bool) : Option Decimal → Option Decimal → Option Decimal
  | none, b => b
  | some a, none => some a
  | some a, some b => some (tighter isLong a b)

/-- The opinion of a strategy that counts ticks. -/
def ticksStop (count : Nat) (tickSize entry current : Decimal) (isLong : Bool) :
    Except Fault (Option Decimal) :=
  if count = 0 ∨ tickSize ≤ .zero then .ok none
  else do
    let n ← Decimal.ofCount count
    let offset ← n.mul tickSize
    let shift := fun price : Decimal => if isLong then price.sub offset else price.add offset
    let fromEntry ← shift entry
    let fromCurrent ← shift current
    return some (tighter isLong fromEntry fromCurrent)

/-- The opinion of a strategy that takes a fraction. -/
def percentStop (fraction entry current : Decimal) (isLong : Bool) :
    Except Fault (Option Decimal) :=
  if fraction ≤ .zero then .ok none
  else do
    let factor ← if isLong then Decimal.one.sub fraction else Decimal.one.add fraction
    let fromEntry ← entry.mul factor
    let fromCurrent ← current.mul factor
    return some (tighter isLong fromEntry fromCurrent)

mutual

/-- The opinion of a strategy. -/
def stop (entry current : Decimal) (isLong : Bool) :
    StopStrategy → Except Fault (Option Decimal)
  | .ticks count tickSize => ticksStop count tickSize entry current isLong
  | .percent fraction => percentStop fraction entry current isLong
  | .composite stops => stopAll entry current isLong none stops

/-- The tightest of an opinion and those of a list of strategies. -/
def stopAll (entry current : Decimal) (isLong : Bool) (best : Option Decimal) :
    List StopStrategy → Except Fault (Option Decimal)
  | [] => .ok best
  | s :: rest => do
    let opinion ← stop entry current isLong s
    stopAll entry current isLong (tighterOpinion isLong best opinion) rest

end

mutual

/-- The simple strategies of a tree, from left to right. -/
def leaves : StopStrategy → List StopStrategy
  | .composite stops => leavesAll stops
  | s => [s]

def leavesAll : List StopStrategy → List StopStrategy
  | [] => []
  | s :: rest => leaves s ++ leavesAll rest

end

/-- The opinion of a strategy held against the prior stop, which stays if there is no opinion. -/
def ratchetStop (s : StopStrategy) (q : StopQuery) : Except Fault Decimal := do
  match ← s.stop q.entry q.current q.isLong with
  | some candidate => return tighten q.isLong q.prior candidate
  | none => return q.prior

/-- Trails with a strategy, which has tick sizes of its own. -/
def ratchet (s : StopStrategy) : Trailing where
  stop := s.ratchetStop
  stopWithTick _ := s.ratchetStop

/-- The names of the parts of a composite, in words for a log. -/
def describeParts (stops : List StopStrategy) : String :=
  Text.quotedList (stops.map name)

end StopStrategy

end EntryGate
