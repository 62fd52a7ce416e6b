import EntryGate.Risk.Caps
import EntryGate.Risk.LossGuard
import EntryGate.Text.Quoted

/-!
# Risk rules

Rules are combined into trees: the leaves are lockouts, caps and loss guards; a chain applies its
rules from left to right, and a switch stands in front of a rule and can refuse on its own.

There are two ways to ask a rule.  `Rule.evaluate` stops at the first refusal and leaves the rules
after it untouched.  `Rule.poll` asks every rule of a chain, whatever the others answer, but nothing
behind a switch that refuses.  Both may change state, since a lockout that has expired is lifted
when it is asked.  Outcomes are told to every leaf, also behind switches.

A fault, which can only come from caps, ends either question; the changes made before it stand.
-/

namespace EntryGate

/-- Caps together with the account snapshot they are checked against. -/
structure CapsRule where
  caps : RiskCaps
  snapshot : RiskSnapshot
deriving DecidableEq

namespace CapsRule

def decision (c : CapsRule) : Except Fault RiskDecision :=
  c.caps.evaluate c.snapshot

/-- The reason for refusing, if a cap is breached. -/
def refusal (c : CapsRule) : Except Fault (Option String) := do
  let d ← c.decision
  return if d.isAllow then none else some d.reason

end CapsRule

/-- The positions of an operator's switch. -/
structure SwitchFlags where
  enabled : Bool
  manualLockout : Bool
deriving DecidableEq, Repr

namespace SwitchFlags

/-- A new switch lets everything through. -/
def initial : SwitchFlags := ⟨true, false⟩

/-- Why the switch itself refuses, if it does. -/
def refusal? (f : SwitchFlags) : Option String :=
  if !f.enabled then some "RiskDisabled"
  else if f.manualLockout then some "RiskManualLockout"
  else none

def isBlocked (f : SwitchFlags) : Bool :=
  f.refusal?.isSome

end SwitchFlags

/-- A tree of risk rules with their present states. -/
inductive Rule where
  | lockout (l : Lockout)
  | caps (c : CapsRule)
  | guard (g : LossGuard)
  | switch (flags : SwitchFlags) (inner : Rule)
  | chain (mode : RiskMode) (rules : List Rule)

namespace Rule

instance : Inhabited Rule := ⟨.chain .standard []⟩

def name : Rule → String
  | .lockout _ => "lockout"
  | .caps _ => "caps"
  | .guard g => g.tag
  | .switch _ _ => "switch"
  | .chain _ _ => "chain"

/-! ## Lockout state -/

mutual

/-- How far a rule restricts trading.  A chain is as restrictive as its most restrictive rule, and a
switch that refuses is a lockout. -/
def state : Rule → LockoutState
  | .lockout l => l.state
  | .caps _ => .none
  | .guard g => g.state
  | .switch flags inner => if flags.isBlocked then .lockedOut else inner.state
  | .chain _ rules => stateAll rules

def stateAll : List Rule → LockoutState
  | [] => .none
  | r :: rs =>
    match r.state, stateAll rs with
    | .lockedOut, _ => .lockedOut
    | _, .lockedOut => .lockedOut
    | .coolingDown, _ => .coolingDown
    | _, .coolingDown => .coolingDown
    | .none, .none => .none

end

/-! ## Questions -/

mutual

/-- The reason for refusing an intent, if there is one. -/
def evaluate (now : Instant) (intent : PositionIntent) :
    Rule → Rule × Except Fault (Option String)
  | .lockout l =>
    let (l, refusal) := l.evaluate now intent
    (.lockout l, .ok refusal)
  | .caps c => (.caps c, c.refusal)
  | .guard g => (.guard g, .ok (if g.isBlocked then some g.tag else none))
  | .switch flags inner =>
    match flags.refusal? with
    | some reason => (.switch flags inner, .ok (some reason))
    | none =>
      let (inner, refusal) := evaluate now intent inner
      (.switch flags inner, refusal)
  | .chain mode rules =>
    let (rules, refusal) := evaluateAll now intent rules
    (.chain mode rules, refusal)

/-- The first refusal of a list of rules. -/
def evaluateAll (now : Instant) (intent : PositionIntent) :
    List Rule → List Rule × Except Fault (Option String)
  | [] => ([], .ok none)
  | r :: rs =>
    match evaluate now intent r with
    -- the rules after a refusal are not asked, and keep their states
    | (r, .ok none) =>
      let (rs, refusal) := evaluateAll now intent rs
      (r :: rs, refusal)
    | (r, refusal) => (r :: rs, refusal)

end

mutual

/-- Whether trading is allowed now. -/
def poll (now : Instant) : Rule → Rule × Except Fault Bool
  | .lockout l =>
    let (l, ok) := l.poll now
    (.lockout l, .ok ok)
  | .caps c => (.caps c, c.decision.map RiskDecision.isAllow)
  | .guard g => (.guard g, .ok !g.isBlocked)
  | .switch flags inner =>
    if flags.isBlocked then (.switch flags inner, .ok false)
    else
      let (inner, ok) := poll now inner
      (.switch flags inner, ok)
  | .chain mode rules =>
    let (rules, ok) := pollAll now rules
    (.chain mode rules, ok)

/-- Whether all rules of a list allow trading; every one of them is asked. -/
def pollAll (now : Instant) : List Rule → List Rule × Except Fault Bool
  | [] => ([], .ok true)
  | r :: rs =>
    match poll now r with
    | (r, .ok here) =>
      let (rs, there) := pollAll now rs
      (r :: rs, there.map (here && ·))
    | (r, .error fault) => (r :: rs, .error fault)

end

/-! ## Outcomes -/

mutual

/-- Tells every leaf the outcome of a trade. -/
def record (now : Instant) (win : Bool) : Rule → Rule
  | .lockout l => .lockout (l.record now win)
  | .caps c => .caps c
  | .guard g => .guard (g.record win)
  | .switch flags inner => .switch flags (record now win inner)
  | .chain mode rules => .chain mode (recordAll now win rules)

def recordAll (now : Instant) (win : Bool) : List Rule → List Rule
  | [] => []
  | r :: rs => record now win r :: recordAll now win rs

end

/-! ## Addressing -/

mutual

/-- Changes the rule at a place: the empty path is the rule itself, and a number leads to that
member of a chain, or through a switch. -/
def modifyAt (f : Rule → Rule) : List Nat → Rule → Rule
  | [], r => f r
  | _ :: path, .switch flags inner => .switch flags (modifyAt f path inner)
  | n :: path, .chain mode rules => .chain mode (modifyNth f path n rules)
  | _ :: _, r => r

def modifyNth (f : Rule → Rule) (path : List Nat) : Nat → List Rule → List Rule
  | _, [] => []
  | 0, r :: rs => modifyAt f path r :: rs
  | n + 1, r :: rs => r :: modifyNth f path n rs

end

/-- The rule at a place. -/
def at? : List Nat → Rule → Option Rule
  | [], r => some r
  | _ :: path, .switch _ inner => at? path inner
  | n :: path, .chain _ rules => rules[n]?.bind (at? path)
  | _ :: _, _ => none

/-- The mode and the names of the rules of a chain, in words for a log. -/
def describeChain (mode : RiskMode) (rules : List Rule) : String :=
  "RiskChain \x7b mode: " ++ mode.name ++ ", rules: "
    ++ Text.quotedList (rules.map name) ++ " \x7d"

end Rule

end EntryGate
