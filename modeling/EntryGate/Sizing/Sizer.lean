import EntryGate.Intent
import EntryGate.Sizing.Tier
import EntryGate.Table
import EntryGate.Text.Case
import EntryGate.Text.Quoted

/-!
# Sizing

A sizer answers every intent with a quantity and a reason; a size rule may also decline.  A sizing
chain asks its rules in order, takes the first answer, falls back on a sizer, and clamps the result
to the tier of the mode under which it was decided.

* `Sizer` and `SizeRule` are open: any function may serve as one;
* `Sizer.fixed`, `Sizer.bracket` and `Sizer.modeBase` are the ready-made sizers, and
  `SymbolQuantities.rule` the ready-made rule;
* `SizingChain.decide` is the clamped answer of a chain, `SizingChain.rawDecide` the plain one.
-/

namespace EntryGate

open Text

/-- A quantity with the reason for it and the mode it was decided under. -/
structure SizeDecision where
  quantity : Nat
  reason : String
  mode : RiskMode
deriving DecidableEq, Repr

namespace SizeDecision

/-- The decision not to trade. -/
def zero (reason : String) (mode : RiskMode) : SizeDecision := ⟨0, reason, mode⟩

instance : Codec SizeDecision where
  encode s := .record
    [("quantity", .ofNat s.quantity), ("reason", encode s.reason), ("mode", encode s.mode)]
  decode format d := do
    let m ← Members.ofDocument? format ["quantity", "reason", "mode"] d
    let quantity ← m.required? "quantity" Document.count?
    let reason ← m.required? "reason" (decode format)
    let mode ← m.required? "mode" (decode format)
    return ⟨quantity, reason, mode⟩

end SizeDecision

/-- Decides on a quantity for every intent. -/
structure Sizer where
  name : String
  decide : PositionIntent → RiskMode → SizeDecision

/-- Decides on a quantity or declines. -/
structure SizeRule where
  name : String
  tryDecide : PositionIntent → RiskMode → Option SizeDecision

/-! ## Ready-made sizers -/

/-- A quantity for every risk mode. -/
structure Bracket where
  ecp : Nat
  pcp : Nat
  dcp : Nat
  hr : Nat
  tag : String
deriving DecidableEq, Repr

namespace Bracket

def defaultTag : String := "BracketedQuantity"

def defaults : Bracket := ⟨1, 2, 3, 1, "bracket"⟩

def quantityFor (b : Bracket) : RiskMode → Nat
  | .extremeProtection => b.ecp
  | .protectivePreservation => b.pcp
  | .defaultProtection => b.dcp
  | .highRisk => b.hr

instance : Codec Bracket where
  encode b := .record
    [ ("ecp", .ofNat b.ecp),
      ("pcp", .ofNat b.pcp),
      ("dcp", .ofNat b.dcp),
      ("hr", .ofNat b.hr),
      ("tag", encode b.tag) ]
  decode format d := do
    let m ← Members.ofDocument? format ["ecp", "pcp", "dcp", "hr", "tag"] d
    let ecp ← m.defaulted? "ecp" Document.count? defaults.ecp
    let pcp ← m.defaulted? "pcp" Document.count? defaults.pcp
    let dcp ← m.defaulted? "dcp" Document.count? defaults.dcp
    let hr ← m.defaulted? "hr" Document.count? defaults.hr
    let tag ← m.defaulted? "tag" (decode format) defaults.tag
    return ⟨ecp, pcp, dcp, hr, tag⟩

end Bracket

namespace Sizer

/-- The same quantity for every intent. -/
def fixed (quantity : Nat) : Sizer where
  name := "FixedQuantity"
  decide _ mode := ⟨quantity, "FixedQuantity", mode⟩

/-- The quantity of the mode, under the tag of the bracket. -/
def bracket (b : Bracket) : Sizer where
  name := "BracketedQuantity"
  decide _ mode := ⟨b.quantityFor mode, b.tag, mode⟩

/-- The base quantity of each mode. -/
def baseQuantity : RiskMode → Nat
  | .extremeProtection => 1
  | .protectivePreservation => 1
  | .defaultProtection => 2
  | .highRisk => 3

/-- The base quantity for an intent that can be traded, and zero for any other. -/
def modeBase : Sizer where
  name := "ModeBase"
  decide intent mode :=
    if intent.symbol.isEmpty then .zero "symbol missing" mode
    else if intent.side.isFlat then .zero "flat intent" mode
    else
      let quantity := baseQuantity mode
      ⟨quantity, mode.code ++ " base " ++ integerText quantity, mode⟩

end Sizer

/-- Quantities for particular instruments, by symbol key. -/
structure SymbolQuantities where
  quantities : Table String Nat
deriving DecidableEq, Repr

namespace SymbolQuantities

def empty : SymbolQuantities := ⟨.empty⟩

def insert (q : SymbolQuantities) (symbol : String) (quantity : Nat) : SymbolQuantities :=
  ⟨q.quantities.put (symbolKey symbol) quantity⟩

/-- Inserts in order, so that of two spellings of a symbol the later one counts. -/
def ofList (entries : List (String × Nat)) : SymbolQuantities :=
  entries.foldl (fun q e => q.insert e.1 e.2) empty

/-- Decides for the instruments of the table and declines all others. -/
def rule (q : SymbolQuantities) : SizeRule where
  name := "SymbolQuantity"
  tryDecide intent mode :=
    let key := symbolKey intent.symbol
    (q.quantities.get? key).map fun quantity => ⟨quantity, "symbol " ++ key, mode⟩

end SymbolQuantities

/-! ## Chains -/

/-- Rules in order, a sizer to fall back on, and the tiers to clamp to. -/
structure SizingChain where
  rules : List SizeRule
  fallback : Sizer
  tiers : Option RiskTiers

namespace SizingChain

/-- The answer of the first rule that does not decline, or else of the fallback. -/
def rawDecide (c : SizingChain) (intent : PositionIntent) (mode : RiskMode) : SizeDecision :=
  match c.rules.findSome? fun r => r.tryDecide intent mode with
  | some d => d
  | none => c.fallback.decide intent mode

/-- The answer clamped to the tier of its mode. -/
def decide (c : SizingChain) (intent : PositionIntent) (mode : RiskMode) : SizeDecision :=
  let d := c.rawDecide intent mode
  match c.tiers with
  | none => d
  | some tiers =>
    let (quantity, reason) := (tiers.forMode d.mode).clamp d.quantity d.reason
    ⟨quantity, reason, d.mode⟩

/-- A chain is a sizer itself. -/
def toSizer (c : SizingChain) : Sizer where
  name := "SizingChain"
  decide := c.decide

/-- A tier, in words for a log. -/
def describeTier (t : Tier) : String :=
  "Tier \x7b min: " ++ integerText t.min ++ ", max: " ++ integerText t.max ++ ", tag: "
    ++ quoted t.tag ++ " \x7d"

def describeTiers : Option RiskTiers → String
  | none => "None"
  | some t =>
    "Some(RiskTiers \x7b ecp: " ++ describeTier t.ecp ++ ", pcp: " ++ describeTier t.pcp
      ++ ", dcp: " ++ describeTier t.dcp ++ ", hr: " ++ describeTier t.hr ++ " \x7d)"

/-- The parts of a chain, in words for a log. -/
def describe (c : SizingChain) : String :=
  "SizingChain \x7b rules: " ++ quotedList (c.rules.map SizeRule.name) ++ ", fallback: "
    ++ quoted c.fallback.name ++ ", tiers: " ++ describeTiers c.tiers ++ " \x7d"

end SizingChain

end EntryGate
