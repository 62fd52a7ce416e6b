import EntryGate.Document.Codec

/-!
# Trailing stops

A trailing stop follows the price at a distance and never gives ground.  A `Trailing` computes the
next stop from the entry, the current price and the stop before it; a prior stop of zero or less
means that there is none yet.

* `tighten` is the rule of not giving ground;
* `FixedDistance` keeps a number of ticks behind the better of entry and price.
-/

namespace EntryGate

/-- How a trailing distance is meant. -/
inductive TrailingKind where
  | fixedTicks
  | atrMultiple
  | openingRangeWidth
deriving DecidableEq, Repr

namespace TrailingKind

def name : TrailingKind → String
  | .fixedTicks => "FixedTicks"
  | .atrMultiple => "AtrMultiple"
  | .openingRangeWidth => "OpeningRangeWidth"

def ofName? : String → Option TrailingKind
  | "FixedTicks" => some .fixedTicks
  | "AtrMultiple" => some .atrMultiple
  | "OpeningRangeWidth" => some .openingRangeWidth
  | _ => none

instance : Codec TrailingKind where
  encode k := .text k.name
  decode format d := (d.variant? format).bind ofName?

end TrailingKind

/-- The parameters of a trailing stop. -/
structure TrailingProfile where
  kind : TrailingKind
  param1 : Decimal
  param2 : Decimal
deriving DecidableEq

namespace TrailingProfile

/-- Ten ticks. -/
def defaults : TrailingProfile := ⟨.fixedTicks, .ten, .zero⟩

instance : Codec TrailingProfile where
  encode p := .record
    [("kind", encode p.kind), ("param1", encode p.param1), ("param2", encode p.param2)]
  decode format d := do
    let m ← Members.ofDocument? format ["kind", "param1", "param2"] d
    let kind ← m.defaulted? "kind" (decode format) defaults.kind
    let param1 ← m.defaulted? "param1" (decode format) defaults.param1
    let param2 ← m.defaulted? "param2" (decode format) defaults.param2
    return ⟨kind, param1, param2⟩

end TrailingProfile

/-- The question for the next stop. -/
structure StopQuery where
  entry : Decimal
  current : Decimal
  isLong : Bool
  profile : TrailingProfile
  /-- The stop before, or a value that is not positive if there is none. -/
  prior : Decimal

/-- A way to compute stops. -/
structure Trailing where
  stop : StopQuery → Except Fault Decimal
  /-- The same with the tick size of a particular request. -/
  stopWithTick : Decimal → StopQuery → Except Fault Decimal

/-- The better of the prior stop and a candidate: the higher one for a long position and the lower
one for a short one.  Without a prior stop it is the candidate. -/
def tighten (isLong : Bool) (prior candidate : Decimal) : Decimal :=
  if prior ≤ .zero then candidate
  else if isLong then prior.max candidate
  else prior.min candidate

/-- A stop at a fixed number of ticks. -/
structure FixedDistance where
  tickSize : Decimal
deriving DecidableEq

namespace FixedDistance

/-- The distance of the stop.  Every kind of profile counts ticks; without a positive number of them
there are ten, and without a positive tick size a tick is one. -/
def distance (e : FixedDistance) (profile : TrailingProfile) : Except Fault Decimal :=
  let ticks := if profile.param1 ≤ .zero then Decimal.ten else profile.param1
  if .zero < e.tickSize then ticks.mul e.tickSize else .ok ticks

/-- The stop at the distance from the current price, held against the prior stop, or against the
stop at the distance from the entry if there is none. -/
def stop (e : FixedDistance) (q : StopQuery) : Except Fault Decimal := do
  let distance ← e.distance q.profile
  let offset := fun price : Decimal => if q.isLong then price.sub distance else price.add distance
  let candidate ← offset q.current
  let seed ← offset q.entry
  return tighten q.isLong (if q.prior ≤ .zero then seed else q.prior) candidate

/-- A request's own tick size takes the place of the configured one. -/
def trailing (e : FixedDistance) : Trailing where
  stop := e.stop
  stopWithTick tickSize := FixedDistance.stop ⟨tickSize⟩

end FixedDistance

end EntryGate
