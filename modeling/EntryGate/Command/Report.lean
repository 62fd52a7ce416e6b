import EntryGate.Gate

/-!
# Reports

What the commands print.
-/

namespace EntryGate

/-- A planned entry, with the state of the lockout and the events of the planning. -/
structure PlanReport where
  plan : EntryPlan
  lockout : LockoutState
  lossStreak : Nat
  diagnostics : List DiagnosticEvent
deriving DecidableEq

namespace PlanReport

def encode (r : PlanReport) : Document := .record
  [ ("plan", Codec.encode r.plan),
    ("lockout", Codec.encode r.lockout),
    ("loss_streak", .ofNat r.lossStreak),
    ("diagnostics", Codec.encode r.diagnostics) ]

end PlanReport

/-- The check of an account against the caps. -/
structure CapsReport where
  decision : RiskDecision
  drawdown : Decimal
deriving DecidableEq

namespace CapsReport

def encode (r : CapsReport) : Document := .record
  [ ("decision", Codec.encode r.decision),
    ("reason", .text r.decision.reason),
    ("message", .text r.decision.message),
    ("drawdown", Codec.encode r.drawdown) ]

end CapsReport

/-- The window that keeps a symbol out at a time. -/
structure SessionReport where
  symbol : String
  moment : LocalDateTime
  block : Option SessionBlock
deriving DecidableEq

namespace SessionReport

def encode (r : SessionReport) : Document := .record
  [ ("symbol", .text r.symbol),
    ("at", Codec.encode r.moment),
    ("blocked", .bool r.block.isSome),
    ("window", .ofOption (fun b => .text b.window.render) r.block),
    ("kind", .ofOption (fun b => .text b.label) r.block) ]

end SessionReport

end EntryGate
