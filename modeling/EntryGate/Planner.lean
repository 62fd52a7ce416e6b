import EntryGate.EventLog
import EntryGate.Intent
import EntryGate.Plan
import EntryGate.Session.Gate
import EntryGate.Sizing.Sizer
import EntryGate.Stop.Trailing

/-!
# Entry planning

A request for an entry passes a series of gates: the intent itself, the risk rules, the session
windows, the sizing, the price and the protective stop.  The first gate that refuses decides, and
leaves an event with its name and reason; an entry that passes all of them becomes a plan with two
orders that share an identifier.

* `EntryRequest` is what is asked;
* `Planner` holds the parts that decide, among them any risk rule with a state of type `ρ`;
* `Planner.build` answers a request with the new risk state, the events and the plan.
-/

namespace EntryGate

open Text

/-- A request for an entry. -/
structure EntryRequest where
  /-- The time on the exchange's clock. -/
  now : LocalDateTime
  symbol : String
  side : Side
  kind : OrderKind
  /-- The price of an order that has one, and otherwise a reference price. -/
  price : Decimal
  profile : TrailingProfile
  /-- The unit to which prices are rounded and in which the stop distance is counted. -/
  tickSize : Decimal
deriving DecidableEq

namespace EntryRequest

def intent (r : EntryRequest) : PositionIntent := ⟨r.symbol, r.side⟩

instance : Codec EntryRequest where
  encode r := .record
    [ ("now", encode r.now),
      ("symbol", encode r.symbol),
      ("side", encode r.side),
      ("kind", encode r.kind),
      ("price", encode r.price),
      ("profile", encode r.profile),
      ("tick_size", encode r.tickSize) ]
  decode format d := do
    let m ← Members.ofDocument? format
      ["now", "symbol", "side", "kind", "price", "profile", "tick_size"] d
    let now ← m.required? "now" (decode format)
    let symbol ← m.required? "symbol" (decode format)
    let side ← m.required? "side" (decode format)
    let kind ← m.required? "kind" (decode format)
    let price ← m.required? "price" (decode format)
    let profile ← m.defaulted? "profile" (decode format) .defaults
    let tickSize ← m.defaulted? "tick_size" (decode format) .quarter
    return ⟨now, symbol, side, kind, price, profile, tickSize⟩

end EntryRequest

/-- The parts that decide on a request. -/
structure Planner (ρ : Type) where
  mode : RiskMode
  /-- The risk rules: the reason for refusing an intent, if there is one, and the new state. -/
  risk : ρ → PositionIntent → ρ × Except Fault (Option String)
  session : SessionGate
  sizer : Sizer
  trailing : Trailing

/-- The answer to a request. -/
structure Planned (ρ : Type) where
  state : ρ
  /-- What happened, in order. -/
  events : List DiagnosticEvent
  plan : Except Fault EntryPlan

namespace Planner

variable {ρ : Type}

/-- The decision of the gates after the risk rules. -/
inductive Verdict where
  | reject (gate reason : String)
  | accept (plan : EntryPlan)

def entryTag : String := "entry"

def protectTag : String := "protect"

/-- The price of the entry order. -/
def entryPrice (r : EntryRequest) : Except Fault Decimal :=
  if r.kind.isPriceBased then r.price.roundToTick r.tickSize else .ok r.price

/-- The price of the protective stop for an entry at a price. -/
def stopPrice (p : Planner ρ) (r : EntryRequest) (entry : Decimal) : Except Fault Decimal := do
  let stop ← p.trailing.stopWithTick r.tickSize ⟨entry, entry, r.side.isLong, r.profile, .zero⟩
  stop.roundToTick r.tickSize

/-- The two orders of an accepted entry. -/
def orders (r : EntryRequest) (quantity : Nat) (entry stop : Decimal) (oco : String) : EntryPlan :=
  .entering
    ⟨r.symbol, r.side.isLong, quantity, r.kind, entry, entryTag, oco⟩
    ⟨r.symbol, r.side.isLong, quantity, .stopMarket, stop, protectTag, oco⟩
    oco

/-- The price gate and the stop gate. -/
def priceOrders (p : Planner ρ) (oco : String) (r : EntryRequest) (quantity : Nat) :
    Except Fault Verdict :=
  if r.kind.isPriceBased ∧ r.price ≤ .zero then .ok (.reject "price" "bad price")
  else do
    let entry ← entryPrice r
    let stop ← p.stopPrice r entry
    if r.side.isLong ∧ entry ≤ stop then return .reject "stop" "stop side invalid (long)"
    else if ¬r.side.isLong ∧ stop ≤ entry then return .reject "stop" "stop side invalid (short)"
    else return .accept (orders r quantity entry stop oco)

/-- The reason for not trading a quantity of zero. -/
def sizeReason (d : SizeDecision) : String :=
  if d.reason.isEmpty then "size <= 0" else d.reason

/-- A refusal by a gate, with its event. -/
def refuse (state : ρ) (gate reason : String) : Planned ρ :=
  ⟨state, [⟨gate, reason⟩], .ok (.rejected reason)⟩

/-- The session gate, the sizing, and the gates after them. -/
def afterRisk (p : Planner ρ) (oco : String) (r : EntryRequest) (state : ρ) : Planned ρ :=
  match p.session.blocking? r.symbol r.now with
  | some block =>
    -- the session gate is the only one that leaves two events
    let message := r.symbol ++ " blocked by " ++ block.render ++ " at " ++ r.now.renderSpaced
    ⟨state, [⟨"session", message⟩, ⟨"session", "session window"⟩],
      .ok (.rejected "session window")⟩
  | none =>
    let size := p.sizer.decide r.intent p.mode
    if size.quantity = 0 then refuse state "sizing" (sizeReason size)
    else
      match p.priceOrders oco r size.quantity with
      | .error fault => ⟨state, [], .error fault⟩
      | .ok (.reject gate reason) => refuse state gate reason
      | .ok (.accept plan) =>
        ⟨state, [⟨"plan", r.symbol ++ " accepted oco=" ++ plan.ocoGroup⟩], .ok plan⟩

/-- Answers a request.  `oco` is the identifier that the orders share if the entry is accepted. -/
def build (p : Planner ρ) (oco : String) (r : EntryRequest) (state : ρ) : Planned ρ :=
  if r.symbol.isEmpty then refuse state "intent" "symbol missing"
  else if r.side.isFlat then refuse state "intent" "flat intent"
  else
    -- from here on the new state counts, also if a later gate refuses
    match p.risk state r.intent with
    | (state, .error fault) => ⟨state, [], .error fault⟩
    | (state, .ok (some reason)) => refuse state "risk" reason
    | (state, .ok none) => p.afterRisk oco r state

end Planner

end EntryGate
