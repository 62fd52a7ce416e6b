import EntryGate.Planner
import EntryGate.Risk.Rule
import EntryGate.Settings

/-!
# The complete gate

All parts put together from settings: an operator's switch in front of a lockout, the account caps
and an optional loss guard; sizing by symbol and by mode, clamped to the tiers; the session windows
of a calendar; a protective stop at a fixed distance; and a filtered log of events.

* `Gate.ofSettings` builds a gate;
* `Gate.plan` answers a request, and `Gate.request` makes one for the present moment;
* the remaining operations change the state that later answers depend on.
-/

namespace EntryGate

/-- A configured gate with its present state. -/
structure Gate where
  settings : Settings
  switch : SwitchFlags
  lockout : Lockout
  snapshot : RiskSnapshot
  lossGuard : Option LossGuard
  sizing : SizingChain
  session : SessionGate
  log : Option FilteredLog
  /-- The present instant. -/
  now : Instant

/-- Why there is no gate for some settings. -/
inductive GateError where
  | settings (e : SettingsError)
  | fault (f : Fault)
deriving DecidableEq, Repr

namespace GateError

/-- What fails for the settings is an error of the gate. -/
def ofSettings {α : Type} : Except SettingsError α → Except GateError α
  | .ok a => .ok a
  | .error e => .error (.settings e)

/-- What ends in a fault is an error of the gate. -/
def ofFault {α : Type} : Except Fault α → Except GateError α
  | .ok a => .ok a
  | .error f => .error (.fault f)

end GateError

namespace Gate

/-! ## Construction -/

/-- Symbol overrides if there are any, then the bracket, clamped to the tiers. -/
def sizingOf (s : Settings) : SizingChain where
  rules :=
    if s.sizing.symbolQuantities.isEmpty then []
    else [(SymbolQuantities.ofList s.sizing.symbolQuantities).rule]
  fallback := .bracket s.sizing.bracket
  tiers := some s.tiers

/-- The log of events, unless it is switched off. -/
def logOf (s : EventSettings) : Except Fault (Option FilteredLog) :=
  if s.enabled then do
    let log ← EventLog.create s.capacity
    return some ⟨.ofTags s.tags, log⟩
  else .ok none

/-- The cooldown of the lockout: if the minutes are too many for a span, the longest one that is
accepted. -/
def cooldownOf (s : LockoutSettings) : Span :=
  (Span.ofMinutes? s.cooldownMinutes).getD (.ofMinutes Lockout.maxCooldownMinutes)

/-- A gate for settings that have been validated. -/
def assemble (s : Settings) (zone : Zone) (log : Option FilteredLog) (calendar : CalendarProvider)
    (now : Instant) : Gate :=
  {
    settings := s
    switch := .initial
    lockout := .new s.riskMode s.lockout.lossStreakThreshold (cooldownOf s.lockout)
    snapshot := .empty
    lossGuard := s.lockout.maxConsecutiveLosses.map fun n => .new n LossGuard.defaultTag
    sizing := sizingOf s
    session := ⟨calendar, zone⟩
    log := log
    now := now }

/-- A gate for settings that are valid or can be repaired. -/
def ofSettings (zones : ZoneTable) (s : Settings) (calendar : CalendarProvider) (now : Instant) :
    Except GateError Gate := do
  let s ← GateError.ofSettings (s.validate zones)
  let zone ← GateError.ofSettings (s.zone zones)
  let log ← GateError.ofFault (logOf s.diagnostics)
  return assemble s zone log calendar now

/-! ## Risk -/

/-- The rules inside the switch. -/
def rules (g : Gate) : List Rule :=
  [.lockout g.lockout, .caps ⟨g.settings.caps, g.snapshot⟩] ++ (g.lossGuard.map Rule.guard).toList

/-- The tree of risk rules. -/
def rule (g : Gate) : Rule :=
  .switch g.switch (.chain g.settings.riskMode g.rules)

/-- The gate with the states that its rules have after a question or an outcome. -/
def withRule (g : Gate) : Rule → Gate
  | .switch flags (.chain _ (.lockout l :: .caps c :: rest)) =>
    { g with
      switch := flags
      lockout := l
      snapshot := c.snapshot
      lossGuard := match rest with
        | [.guard guard] => some guard
        | _ => none }
  | _ => g

/-- How far the rules restrict trading. -/
def state (g : Gate) : LockoutState :=
  g.rule.state

/-- The reason for refusing an intent, if there is one. -/
def evaluate (g : Gate) (intent : PositionIntent) : Gate × Except Fault (Option String) :=
  let (rule, refusal) := g.rule.evaluate g.now intent
  (g.withRule rule, refusal)

/-- Whether trading is allowed now. -/
def poll (g : Gate) : Gate × Except Fault Bool :=
  let (rule, ok) := g.rule.poll g.now
  (g.withRule rule, ok)

/-- Takes note of the outcome of a trade. -/
def record (g : Gate) (win : Bool) : Gate :=
  g.withRule (g.rule.record g.now win)

def setSnapshot (g : Gate) (snapshot : RiskSnapshot) : Gate :=
  { g with snapshot := snapshot }

def setEnabled (g : Gate) (enabled : Bool) : Gate :=
  { g with switch := { g.switch with enabled := enabled } }

def setManualLockout (g : Gate) (locked : Bool) : Gate :=
  { g with switch := { g.switch with manualLockout := locked } }

def forceLockout (g : Gate) : Gate :=
  { g with lockout := g.lockout.force g.now }

/-! ## Clock -/

def setClock (g : Gate) (now : Instant) : Gate :=
  { g with now := now }

/-- Moves the clock; beyond the supported years it stays where it is. -/
def advance (g : Gate) (span : Span) : Gate × Except Fault Instant :=
  match g.now.add? span with
  | some now => ({ g with now := now }, .ok now)
  | none => (g, .error .clockOverflow)

/-- The time on the exchange's clock. -/
def localNow (g : Gate) : Except Fault LocalDateTime :=
  g.session.zone.toLocal g.now

/-! ## Planning -/

def trailing (g : Gate) : FixedDistance := ⟨g.settings.tickSize⟩

/-- The planner made of the parts of the gate. -/
def planner (g : Gate) : Planner Gate where
  mode := g.settings.riskMode
  risk g intent := g.evaluate intent
  session := g.session
  sizer := g.sizing.toSizer
  trailing := g.trailing.trailing

/-- A request for the present moment with the configured profile and tick size. -/
def request (g : Gate) (symbol : String) (side : Side) (kind : OrderKind) (price : Decimal) :
    Except Fault EntryRequest := do
  let now ← g.localNow
  return ⟨now, symbol, side, kind, price, g.settings.trailing, g.settings.tickSize⟩

/-- The gate with events added to its log. -/
def captureAll (g : Gate) (events : List DiagnosticEvent) : Gate :=
  { g with log := g.log.map fun l => l.captureAll events }

/-- Answers a request.  `oco` is the identifier for the orders of an accepted entry. -/
def plan (g : Gate) (oco : String) (r : EntryRequest) : Gate × Except Fault EntryPlan :=
  let planned := g.planner.build oco r g
  (planned.state.captureAll planned.events, planned.plan)

/-- The events in the log, oldest first. -/
def events (g : Gate) : List DiagnosticEvent :=
  match g.log with
  | some l => l.log.events
  | none => []

/-! ## Histories -/

/-- What can happen to a gate. -/
inductive Action where
  | plan (oco : String) (request : EntryRequest)
  | outcome (win : Bool)
  | snapshot (snapshot : RiskSnapshot)
  | enable (enabled : Bool)
  | manualLockout (locked : Bool)
  | forceLockout
  | setClock (now : Instant)
  | advance (span : Span)

/-- The gate after an action. -/
def act (g : Gate) : Action → Gate
  | .plan oco r => (g.plan oco r).1
  | .outcome win => g.record win
  | .snapshot s => g.setSnapshot s
  | .enable b => g.setEnabled b
  | .manualLockout b => g.setManualLockout b
  | .forceLockout => g.forceLockout
  | .setClock t => g.setClock t
  | .advance d => (g.advance d).1

/-- The gate after a history of actions. -/
def run (g : Gate) (actions : List Action) : Gate :=
  actions.foldl act g

/-- Mode, lockout, sizing and session, in words for a log. -/
def describe (g : Gate) : String :=
  "GateStack \x7b mode: " ++ g.settings.riskMode.name ++ ", lockout: " ++ g.lockout.describe
    ++ ", sizing: " ++ g.sizing.describe ++ ", session: " ++ g.session.describe ++ ", .. \x7d"

end Gate

end EntryGate
