import EntryGate.Document.Toml.Reader
import EntryGate.Document.Toml.Writer
import EntryGate.EventLog
import EntryGate.Risk.Caps
import EntryGate.Risk.Lockout
import EntryGate.Sizing.Sizer
import EntryGate.Stop.Trailing
import EntryGate.Time.Zone

/-!
# Settings

Everything that can be configured, with a default for every part.  Settings are read from TOML text
or decoded from a document, validated, and written as TOML text.

Validation refuses what cannot be repaired: a time zone that is not in the table of zones, and
limits and distances below zero.  It repairs the rest: a threshold and a capacity of zero become
one, and a cooldown becomes positive and at most a week.

* `Settings.revise` checks and repairs settings where they are, and `Settings.validate` gives the
  settings after that;
* `Settings.parse` reads and validates a text, `Settings.write` gives one, unless a number is too
  large for it;
* `Settings.sameAs` compares settings by value, whatever the scales of their decimals.
-/

namespace EntryGate

open Text

/-- How losses lock trading out. -/
structure LockoutSettings where
  lossStreakThreshold : Nat
  cooldownMinutes : Int
  /-- The limit of an additional guard that only counts losses. -/
  maxConsecutiveLosses : Option Nat
deriving DecidableEq, Repr

namespace LockoutSettings

def defaults : LockoutSettings := ⟨2, 15, none⟩

instance : Codec LockoutSettings where
  encode s := .record
    [ ("loss_streak_threshold", .ofNat s.lossStreakThreshold),
      ("cooldown_minutes", .integer s.cooldownMinutes),
      ("max_consecutive_losses", .ofOption .ofNat s.maxConsecutiveLosses) ]
  decode format d := do
    let m ← Members.ofDocument? format
      ["loss_streak_threshold", "cooldown_minutes", "max_consecutive_losses"] d
    let threshold ← m.defaulted? "loss_streak_threshold" Document.count?
      defaults.lossStreakThreshold
    let minutes ← m.defaulted? "cooldown_minutes" Document.int64? defaults.cooldownMinutes
    let maxLosses ← m.defaulted? "max_consecutive_losses" (Document.optionOf? Document.count?)
      defaults.maxConsecutiveLosses
    return ⟨threshold, minutes, maxLosses⟩

end LockoutSettings

/-- Quantities by mode and by symbol. -/
structure SizingSettings where
  bracket : Bracket
  /-- Quantities for particular symbols, in the order of the symbols. -/
  symbolQuantities : List (String × Nat)
deriving DecidableEq, Repr

namespace SizingSettings

def defaults : SizingSettings := ⟨.defaults, []⟩

/-- Adds an entry in the order of the keys, in place of one with the same key. -/
def insertSorted (key : String) (n : Nat) : List (String × Nat) → List (String × Nat)
  | [] => [(key, n)]
  | (k, m) :: rest =>
    if k = key then (key, n) :: rest
    else if key < k then (key, n) :: (k, m) :: rest
    else (k, m) :: insertSorted key n rest

/-- Quantities by symbol: any names, of which the last of two equal ones counts. -/
def quantities? : Document → Option (List (String × Nat))
  | .record ms => do
    let entries ← ms.mapM fun (key, d) => (Document.count? d).map fun n => (key, n)
    return entries.foldl (fun sorted e => insertSorted e.1 e.2 sorted) []
  | _ => none

instance : Codec SizingSettings where
  encode s := .record
    [ ("bracket", encode s.bracket),
      ("symbol_quantities", .record (s.symbolQuantities.map fun e => (e.1, .ofNat e.2))) ]
  decode format d := do
    let m ← Members.ofDocument? format ["bracket", "symbol_quantities"] d
    let bracket ← m.defaulted? "bracket" (decode format) defaults.bracket
    let symbolQuantities ← m.defaulted? "symbol_quantities" quantities? defaults.symbolQuantities
    return ⟨bracket, symbolQuantities⟩

end SizingSettings

/-- Which events are kept. -/
structure EventSettings where
  enabled : Bool
  capacity : Nat
  /-- The tags to keep; none at all keeps everything. -/
  tags : List String
deriving DecidableEq, Repr

namespace EventSettings

def defaults : EventSettings := ⟨true, EventLog.defaultCapacity, []⟩

instance : Codec EventSettings where
  encode s := .record
    [("enabled", encode s.enabled), ("capacity", .ofNat s.capacity), ("tags", encode s.tags)]
  decode format d := do
    let m ← Members.ofDocument? format ["enabled", "capacity", "tags"] d
    let enabled ← m.defaulted? "enabled" (decode format) defaults.enabled
    let capacity ← m.defaulted? "capacity" Document.size? defaults.capacity
    let tags ← m.defaulted? "tags" (decode format) defaults.tags
    return ⟨enabled, capacity, tags⟩

end EventSettings

/-- How much is written to the log of the process, and how. -/
structure LogSettings where
  level : String
  format : String
deriving DecidableEq, Repr

namespace LogSettings

def defaults : LogSettings := ⟨"info", "pretty"⟩

instance : Codec LogSettings where
  encode s := .record [("level", encode s.level), ("format", encode s.format)]
  decode format d := do
    let m ← Members.ofDocument? format ["level", "format"] d
    let level ← m.defaulted? "level" (decode format) defaults.level
    let format ← m.defaulted? "format" (decode format) defaults.format
    return ⟨level, format⟩

end LogSettings

/-- The settings of a gate. -/
structure Settings where
  riskMode : RiskMode
  tickSize : Decimal
  timezone : String
  buildStamp : Option String
  lockout : LockoutSettings
  caps : RiskCaps
  tiers : RiskTiers
  sizing : SizingSettings
  trailing : TrailingProfile
  diagnostics : EventSettings
  logging : LogSettings
deriving DecidableEq

/-- What makes settings unusable. -/
inductive SettingsError where
  /-- The text cannot be read, or does not describe settings. -/
  | unreadable
  | unknownTimezone (name : String)
  | invalid (field reason : String)
  /-- A number is too large for the text. -/
  | unwritable
deriving DecidableEq, Repr

namespace SettingsError

def message : SettingsError → String
  | .unreadable => "invalid TOML"
  | .unknownTimezone name => "unknown timezone " ++ quoted name
  | .invalid field reason => "invalid " ++ field ++ ": " ++ reason
  | .unwritable => "out-of-range value"

end SettingsError

namespace Settings

def defaults : Settings :=
  { riskMode := .standard
    tickSize := .quarter
    timezone := "America/New_York"
    buildStamp := none
    lockout := .defaults
    caps := .uncapped
    tiers := .defaults
    sizing := .defaults
    trailing := .defaults
    diagnostics := .defaults
    logging := .defaults }

instance : Inhabited Settings := ⟨defaults⟩

/-- The names of the parts, in order. -/
def memberNames : List String :=
  [ "risk_mode", "tick_size", "timezone", "build_stamp", "lockout", "caps", "tiers", "sizing",
    "trailing", "diagnostics", "logging" ]

instance : Codec Settings where
  encode s := .record
    [ ("risk_mode", encode s.riskMode),
      ("tick_size", encode s.tickSize),
      ("timezone", encode s.timezone),
      ("build_stamp", encode s.buildStamp),
      ("lockout", encode s.lockout),
      ("caps", encode s.caps),
      ("tiers", encode s.tiers),
      ("sizing", encode s.sizing),
      ("trailing", encode s.trailing),
      ("diagnostics", encode s.diagnostics),
      ("logging", encode s.logging) ]
  decode format d := do
    let m ← Members.ofDocument? format memberNames d
    let riskMode ← m.defaulted? "risk_mode" (decode format) defaults.riskMode
    let tickSize ← m.defaulted? "tick_size" (decode format) defaults.tickSize
    let timezone ← m.defaulted? "timezone" (decode format) defaults.timezone
    let buildStamp ← m.defaulted? "build_stamp" (decode format) defaults.buildStamp
    let lockout ← m.defaulted? "lockout" (decode format) defaults.lockout
    let caps ← m.defaulted? "caps" (decode format) defaults.caps
    let tiers ← m.defaulted? "tiers" (decode format) defaults.tiers
    let sizing ← m.defaulted? "sizing" (decode format) defaults.sizing
    let trailing ← m.defaulted? "trailing" (decode format) defaults.trailing
    let diagnostics ← m.defaulted? "diagnostics" (decode format) defaults.diagnostics
    let logging ← m.defaulted? "logging" (decode format) defaults.logging
    return ⟨riskMode, tickSize, timezone, buildStamp, lockout, caps, tiers, sizing, trailing,
      diagnostics, logging⟩

/-! ## Validation -/

section Validation

variable (zones : ZoneTable)

/-- The zone of the configured name. -/
def zone (s : Settings) : Except SettingsError Zone :=
  match zones s.timezone with
  | some z => .ok z
  | none => .error (.unknownTimezone s.timezone)

/-- A limit may be zero, which is no limit, but not below. -/
def checkLimit (field : String) (limit : Decimal) : Except SettingsError Unit :=
  if limit < .zero then
    .error (.invalid field (limit.render ++ " is negative; use 0 for uncapped"))
  else .ok ()

/-- The first thing that makes the settings unusable. -/
def check (s : Settings) : Except SettingsError Unit := do
  let _ ← s.zone zones
  checkLimit "caps.daily_loss_limit" s.caps.dailyLossLimit
  checkLimit "caps.weekly_loss_limit" s.caps.weeklyLossLimit
  checkLimit "caps.trailing_drawdown" s.caps.trailingDrawdown
  if s.trailing.param1 < .zero then
    .error (.invalid "trailing.param1" (s.trailing.param1.render ++ " is negative"))
  else .ok ()

/-- A cooldown in minutes is positive and at most a week. -/
def repairMinutes (minutes : Int) : Int :=
  if minutes ≤ 0 then Lockout.defaultCooldownMinutes
  else if Lockout.maxCooldownMinutes < minutes then Lockout.maxCooldownMinutes
  else minutes

/-- The settings with threshold, cooldown and capacity brought into range. -/
def repair (s : Settings) : Settings :=
  { s with
    lockout := { s.lockout with
      lossStreakThreshold := Lockout.repairThreshold s.lockout.lossStreakThreshold
      cooldownMinutes := repairMinutes s.lockout.cooldownMinutes }
    diagnostics := { s.diagnostics with
      capacity := if s.diagnostics.capacity = 0 then 1 else s.diagnostics.capacity } }

/-- Checks settings and repairs them where they are. -/
def revise : EStateM SettingsError Settings Unit := do
  let s ← get
  MonadExcept.ofExcept (s.check zones)
  modify repair

/-- The settings after their revision, unless they are refused. -/
def validate (s : Settings) : Except SettingsError Settings :=
  match (revise zones).run s with
  | .ok _ revised => .ok revised
  | .error e _ => .error e

theorem revise_run (s : Settings) :
    (revise zones).run s =
      match s.check zones with
      | .ok _ => .ok () s.repair
      | .error e => .error e s := by
  simp only [revise, EStateM.run_bind, EStateM.run_get]
  cases s.check zones with
  | ok _ => rfl
  | error e => rfl

theorem validate_eq (s : Settings) :
    s.validate zones = (s.check zones).map fun _ => s.repair := by
  rw [validate, revise_run]
  cases s.check zones with
  | ok _ => rfl
  | error e => rfl

/-- Reads and validates settings. -/
def parse (text : String) : Except SettingsError Settings :=
  match (Toml.parse? text).bind (decode .toml) with
  | some s => validate zones s
  | none => .error .unreadable

end Validation

/-! ## Comparison -/

/-- The decimal of the same value with as few fraction digits as possible. -/
def plainDecimal (a : Decimal) : Decimal :=
  let (n, scale) := Decimal.stripZeros a.digits a.scale
  ((Decimal.ofDigits? a.negative n scale).getD a).unsignedZero

/-- The settings with every decimal in its shortest form. -/
def plain (s : Settings) : Settings :=
  { s with
    tickSize := plainDecimal s.tickSize
    caps :=
      ⟨s.caps.maxContracts, plainDecimal s.caps.dailyLossLimit,
        plainDecimal s.caps.weeklyLossLimit, plainDecimal s.caps.trailingDrawdown⟩
    trailing :=
      ⟨s.trailing.kind, plainDecimal s.trailing.param1, plainDecimal s.trailing.param2⟩ }

/-- Whether two settings have the same values. -/
def sameAs (a b : Settings) : Bool :=
  decide (a.plain = b.plain)

/-! ## Text -/

def natText (n : Nat) : String := integerText n

def decimalText (a : Decimal) : String := Toml.stringText a.render

def tierLines (t : Tier) : List (String × String) :=
  [("min", natText t.min), ("max", natText t.max), ("tag", Toml.stringText t.tag)]

/-- The settings as TOML text: the plain keys first and then the tables in a fixed order. -/
def render (s : Settings) : String :=
  Toml.linesText
      ([ ("risk_mode", Toml.stringText s.riskMode.name),
         ("tick_size", decimalText s.tickSize),
         ("timezone", Toml.stringText s.timezone) ]
        ++ (s.buildStamp.map fun b => ("build_stamp", Toml.stringText b)).toList)
    ++ Toml.sectionText "lockout"
      ([ ("loss_streak_threshold", natText s.lockout.lossStreakThreshold),
         ("cooldown_minutes", integerText s.lockout.cooldownMinutes) ]
        ++ (s.lockout.maxConsecutiveLosses.map fun n => ("max_consecutive_losses", natText n)).toList)
    ++ Toml.sectionText "caps"
      [ ("max_contracts", natText s.caps.maxContracts),
        ("daily_loss_limit", decimalText s.caps.dailyLossLimit),
        ("weekly_loss_limit", decimalText s.caps.weeklyLossLimit),
        ("trailing_drawdown", decimalText s.caps.trailingDrawdown) ]
    ++ Toml.sectionText "tiers.ecp" (tierLines s.tiers.ecp)
    ++ Toml.sectionText "tiers.pcp" (tierLines s.tiers.pcp)
    ++ Toml.sectionText "tiers.dcp" (tierLines s.tiers.dcp)
    ++ Toml.sectionText "tiers.hr" (tierLines s.tiers.hr)
    ++ Toml.sectionText "sizing.bracket"
      [ ("ecp", natText s.sizing.bracket.ecp),
        ("pcp", natText s.sizing.bracket.pcp),
        ("dcp", natText s.sizing.bracket.dcp),
        ("hr", natText s.sizing.bracket.hr),
        ("tag", Toml.stringText s.sizing.bracket.tag) ]
    ++ Toml.sectionText "sizing.symbol_quantities"
      (s.sizing.symbolQuantities.map fun e => (e.1, natText e.2))
    ++ Toml.sectionText "trailing"
      [ ("kind", Toml.stringText s.trailing.kind.name),
        ("param1", decimalText s.trailing.param1),
        ("param2", decimalText s.trailing.param2) ]
    ++ Toml.sectionText "diagnostics"
      [ ("enabled", Toml.flagText s.diagnostics.enabled),
        ("capacity", natText s.diagnostics.capacity),
        ("tags", Toml.arrayText s.diagnostics.tags) ]
    ++ Toml.sectionText "logging"
      [("level", Toml.stringText s.logging.level), ("format", Toml.stringText s.logging.format)]

/-- The text of settings whose numbers can be read back: of them only the capacity of the log can
be beyond the integers of TOML. -/
def write (s : Settings) : Except SettingsError String :=
  if Toml.maxInteger < s.diagnostics.capacity then .error .unwritable else .ok s.render

end Settings

end EntryGate
