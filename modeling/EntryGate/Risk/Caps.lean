import EntryGate.Document.Codec

/-!
# Account caps

Hard limits on an account: on the number of contracts held, on the loss of the day and of the week,
and on the distance of the equity from its highest value.  A limit of zero or less is no limit.

* `RiskCaps.evaluate` checks an account snapshot against the limits, in a fixed order.
-/

namespace EntryGate

/-- The limits of an account. -/
structure RiskCaps where
  maxContracts : Nat
  dailyLossLimit : Decimal
  weeklyLossLimit : Decimal
  trailingDrawdown : Decimal
deriving DecidableEq

/-- The state of an account at one moment. -/
structure RiskSnapshot where
  accountQuantity : Nat
  equity : Decimal
  peakEquity : Decimal
  dailyPnl : Decimal
  weeklyPnl : Decimal
deriving DecidableEq

/-- The outcome of checking an account against its limits. -/
inductive RiskDecision where
  | allow
  | blockMaxContracts
  | blockDailyLoss
  | blockWeeklyLoss
  | blockTrailingDrawdown
deriving DecidableEq, Repr

namespace RiskDecision

def isAllow (d : RiskDecision) : Bool := d == .allow

/-- The reason under which a decision is reported. -/
def reason : RiskDecision → String
  | .allow => "OK"
  | .blockMaxContracts => "MaxContracts"
  | .blockDailyLoss => "DailyLossLimit"
  | .blockWeeklyLoss => "WeeklyLossLimit"
  | .blockTrailingDrawdown => "TrailingDrawdown"

/-- A sentence for people. -/
def message : RiskDecision → String
  | .allow => "Allowed"
  | .blockMaxContracts => "Account position exceeds MaxContracts"
  | .blockDailyLoss => "Daily loss limit breached"
  | .blockWeeklyLoss => "Weekly loss limit breached"
  | .blockTrailingDrawdown => "Trailing drawdown breached"

def name : RiskDecision → String
  | .allow => "Allow"
  | .blockMaxContracts => "BlockMaxContracts"
  | .blockDailyLoss => "BlockDailyLoss"
  | .blockWeeklyLoss => "BlockWeeklyLoss"
  | .blockTrailingDrawdown => "BlockTrailingDrawdown"

def ofName? : String → Option RiskDecision
  | "Allow" => some .allow
  | "BlockMaxContracts" => some .blockMaxContracts
  | "BlockDailyLoss" => some .blockDailyLoss
  | "BlockWeeklyLoss" => some .blockWeeklyLoss
  | "BlockTrailingDrawdown" => some .blockTrailingDrawdown
  | _ => none

instance : Codec RiskDecision where
  encode d := .text d.name
  decode format d := (d.variant? format).bind ofName?

end RiskDecision

namespace RiskSnapshot

/-- An account without positions and without money. -/
def empty : RiskSnapshot := ⟨0, .zero, .zero, .zero, .zero⟩

/-- How far the equity is below its highest value. -/
def drawdown (s : RiskSnapshot) : Except Fault Decimal :=
  s.peakEquity.sub s.equity

instance : Codec RiskSnapshot where
  encode s := .record
    [ ("account_quantity", .ofNat s.accountQuantity),
      ("equity", encode s.equity),
      ("peak_equity", encode s.peakEquity),
      ("daily_pnl", encode s.dailyPnl),
      ("weekly_pnl", encode s.weeklyPnl) ]
  decode format d := do
    let m ← Members.ofDocument? format
      ["account_quantity", "equity", "peak_equity", "daily_pnl", "weekly_pnl"] d
    let accountQuantity ← m.defaulted? "account_quantity" Document.count? 0
    let equity ← m.defaulted? "equity" (decode format) .zero
    let peakEquity ← m.defaulted? "peak_equity" (decode format) .zero
    let dailyPnl ← m.defaulted? "daily_pnl" (decode format) .zero
    let weeklyPnl ← m.defaulted? "weekly_pnl" (decode format) .zero
    return ⟨accountQuantity, equity, peakEquity, dailyPnl, weeklyPnl⟩

end RiskSnapshot

namespace RiskCaps

/-- No limits at all. -/
def uncapped : RiskCaps := ⟨0, .zero, .zero, .zero⟩

/-- Whether no limit is in force. -/
def isUncapped (c : RiskCaps) : Bool :=
  c.maxContracts == 0 && decide (c.dailyLossLimit ≤ .zero) && decide (c.weeklyLossLimit ≤ .zero)
    && decide (c.trailingDrawdown ≤ .zero)

/-- Whether a loss limit is in force and the result of its period has reached it. -/
def lossReached (limit pnl : Decimal) : Bool :=
  decide (.zero < limit) && decide (limit ≤ pnl.neg)

/-- Checks contracts, daily loss, weekly loss and drawdown, in this order; the first limit that is
breached decides.  The drawdown is computed only if it is limited and nothing else is breached. -/
def evaluate (c : RiskCaps) (s : RiskSnapshot) : Except Fault RiskDecision :=
  if 0 < c.maxContracts ∧ c.maxContracts < s.accountQuantity then .ok .blockMaxContracts
  else if lossReached c.dailyLossLimit s.dailyPnl then .ok .blockDailyLoss
  else if lossReached c.weeklyLossLimit s.weeklyPnl then .ok .blockWeeklyLoss
  else if .zero < c.trailingDrawdown then do
    let drawdown ← s.drawdown
    return if c.trailingDrawdown ≤ drawdown then .blockTrailingDrawdown else .allow
  else .ok .allow

instance : Codec RiskCaps where
  encode c := .record
    [ ("max_contracts", .ofNat c.maxContracts),
      ("daily_loss_limit", encode c.dailyLossLimit),
      ("weekly_loss_limit", encode c.weeklyLossLimit),
      ("trailing_drawdown", encode c.trailingDrawdown) ]
  decode format d := do
    let m ← Members.ofDocument? format
      ["max_contracts", "daily_loss_limit", "weekly_loss_limit", "trailing_drawdown"] d
    let maxContracts ← m.defaulted? "max_contracts" Document.count? 0
    let dailyLossLimit ← m.defaulted? "daily_loss_limit" (decode format) .zero
    let weeklyLossLimit ← m.defaulted? "weekly_loss_limit" (decode format) .zero
    let trailingDrawdown ← m.defaulted? "trailing_drawdown" (decode format) .zero
    return ⟨maxContracts, dailyLossLimit, weeklyLossLimit, trailingDrawdown⟩

end RiskCaps

end EntryGate
