import EntryGate.Document.Codec

/-!
# Risk modes and lockout states

The four postures under which an account trades, from the most protective to the most aggressive,
and the three answers to the question how far a rule restricts trading at the moment.
-/

namespace EntryGate

/-- How much risk an account takes. -/
inductive RiskMode where
  | extremeProtection
  | protectivePreservation
  | defaultProtection
  | highRisk
deriving DecidableEq, Repr

namespace RiskMode

/-- All modes, the most protective first. -/
def all : List RiskMode :=
  [.extremeProtection, .protectivePreservation, .defaultProtection, .highRisk]

/-- The mode of an account that has not chosen one. -/
def standard : RiskMode := .defaultProtection

instance : Inhabited RiskMode := ⟨standard⟩

def name : RiskMode → String
  | .extremeProtection => "ExtremeCapitalProtection"
  | .protectivePreservation => "ProtectiveCapitalPreservation"
  | .defaultProtection => "DefaultCapitalProtection"
  | .highRisk => "HighRisk"

/-- The short form of a mode, which is also how it is displayed. -/
def code : RiskMode → String
  | .extremeProtection => "ECP"
  | .protectivePreservation => "PCP"
  | .defaultProtection => "DCP"
  | .highRisk => "HR"

/-- The mode with that name or code. -/
def ofName? : String → Option RiskMode
  | "ExtremeCapitalProtection" => some .extremeProtection
  | "ECP" => some .extremeProtection
  | "ProtectiveCapitalPreservation" => some .protectivePreservation
  | "PCP" => some .protectivePreservation
  | "DefaultCapitalProtection" => some .defaultProtection
  | "DCP" => some .defaultProtection
  | "HighRisk" => some .highRisk
  | "HR" => some .highRisk
  | _ => none

/-- The position among all modes. -/
def index (m : RiskMode) : Nat :=
  all.idxOf m

instance : Codec RiskMode where
  encode m := .text m.name
  decode format d := (d.variant? format).bind ofName?

end RiskMode

/-- How far a rule restricts trading. -/
inductive LockoutState where
  | none
  | coolingDown
  | lockedOut
deriving DecidableEq, Repr

namespace LockoutState

/-- Only a full lockout stops trading. -/
def permitsTrading : LockoutState → Bool
  | .lockedOut => false
  | _ => true

def name : LockoutState → String
  | .none => "None"
  | .coolingDown => "CoolingDown"
  | .lockedOut => "LockedOut"

def ofName? : String → Option LockoutState
  | "None" => some .none
  | "CoolingDown" => some .coolingDown
  | "LockedOut" => some .lockedOut
  | _ => Option.none

instance : Codec LockoutState where
  encode s := .text s.name
  decode format d := (d.variant? format).bind ofName?

end LockoutState

end EntryGate
