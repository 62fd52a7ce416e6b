import EntryGate.Risk.Mode

/-!
# Quantity tiers

A tier is a band of quantities with a tag.  A quantity outside the band is moved to its nearer end,
and the move is noted in the reason: first the kind of clamp, then the tag of the tier, joined with
plus signs.

* `Tier.new` keeps the band from being empty;
* `Tier.clamp` moves a quantity into the band;
* `RiskTiers` has one tier for every risk mode.
-/

namespace EntryGate

/-- A band of quantities. -/
structure Tier where
  min : Nat
  max : Nat
  tag : String
deriving DecidableEq, Repr

namespace Tier

/-- A band; a maximum below the minimum is raised to it. -/
def new (min max : Nat) (tag : String) : Tier :=
  ⟨min, if max < min then min else max, tag⟩

/-- The band of all counts. -/
def unbounded : Tier := new 0 Count.max ""

/-- A reason with one more part. -/
def appendTag (reason tag : String) : String :=
  if reason.isEmpty then tag else reason ++ "+" ++ tag

/-- The reason for a quantity that was moved to an end of the band. -/
def clampedReason (t : Tier) (reason marker : String) : String :=
  let reason := appendTag reason marker
  if t.tag.isEmpty then reason else appendTag reason t.tag

/-- Moves a quantity into the band and says so in the reason. -/
def clamp (t : Tier) (quantity : Nat) (reason : String) : Nat × String :=
  if quantity < t.min then (t.min, t.clampedReason reason "ClampedMin")
  else if t.max < quantity then (t.max, t.clampedReason reason "ClampedMax")
  else (quantity, reason)

/-- A decoded band is normalised like any other. -/
instance : Codec Tier where
  encode t := .record [("min", .ofNat t.min), ("max", .ofNat t.max), ("tag", encode t.tag)]
  decode format d := do
    let m ← Members.ofDocument? format ["min", "max", "tag"] d
    let min ← m.defaulted? "min" Document.count? 0
    let max ← m.defaulted? "max" Document.count? Count.max
    let tag ← m.defaulted? "tag" (decode format) ""
    return new min max tag

end Tier

/-- One tier for every risk mode. -/
structure RiskTiers where
  ecp : Tier
  pcp : Tier
  dcp : Tier
  hr : Tier
deriving DecidableEq, Repr

namespace RiskTiers

def defaults : RiskTiers :=
  ⟨.new 1 1 "ECP", .new 1 2 "PCP", .new 1 3 "DCP", .new 1 1 "HR"⟩

def forMode (t : RiskTiers) : RiskMode → Tier
  | .extremeProtection => t.ecp
  | .protectivePreservation => t.pcp
  | .defaultProtection => t.dcp
  | .highRisk => t.hr

instance : Codec RiskTiers where
  encode t := .record
    [("ecp", encode t.ecp), ("pcp", encode t.pcp), ("dcp", encode t.dcp), ("hr", encode t.hr)]
  decode format d := do
    let m ← Members.ofDocument? format ["ecp", "pcp", "dcp", "hr"] d
    let ecp ← m.defaulted? "ecp" (decode format) defaults.ecp
    let pcp ← m.defaulted? "pcp" (decode format) defaults.pcp
    let dcp ← m.defaulted? "dcp" (decode format) defaults.dcp
    let hr ← m.defaulted? "hr" (decode format) defaults.hr
    return ⟨ecp, pcp, dcp, hr⟩

end RiskTiers

end EntryGate
