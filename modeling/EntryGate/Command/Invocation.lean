import EntryGate.Command.Arguments
import EntryGate.Intent
import EntryGate.Order
import EntryGate.Risk.Caps
import EntryGate.Time.LocalDateTime

/-!
# Invocations

The commands and their options.  The option for the settings may stand before and after the name of
the command, once in each place, and the later one counts.

* `Command` is a command with its arguments;
* `Invocation.parse` reads a command line.
-/

namespace EntryGate

open Text

/-- A command with its arguments. -/
inductive Command where
  /-- Plans one entry, after a history of outcomes, at a time on the exchange's clock. -/
  | plan (symbol : String) (side : Side) (kind : OrderKind) (price : Decimal)
    (moment : Option LocalDateTime) (outcomes : String) (calendar : Option String)
  /-- Checks an account against the caps. -/
  | caps (snapshot : RiskSnapshot)
  /-- Asks for the window that keeps a symbol out at a time. -/
  | session (symbol : String) (moment : LocalDateTime) (calendar : String)
  /-- Shows the settings. -/
  | config
deriving DecidableEq

/-- A command together with the file that holds the settings. -/
structure Invocation where
  settings : Option String
  command : Command
deriving DecidableEq

namespace Command

/-! ## Values of options -/

def side? : String → Option Side
  | "long" => some .long
  | "short" => some .short
  | "flat" => some .flat
  | _ => none

def kind? : String → Option OrderKind
  | "market" => some .market
  | "limit" => some .limit
  | "stop-market" => some .stopMarket
  | "stop-limit" => some .stopLimit
  | _ => none

/-- A price or an amount. -/
def amount? : String → Option Decimal :=
  Decimal.parse?

/-- A number of contracts, with or without a sign. -/
def contracts? (s : String) : Option Nat :=
  (signed? s.toList).bind fun n =>
    if 0 ≤ n ∧ n.natAbs ≤ Count.max then some n.natAbs else none

/-- The name of a file, which is not empty. -/
def path? (s : String) : Option String :=
  if s.isEmpty then none else some s

/-- The values of all options that have been given. -/
structure Values where
  settings : Option String := none
  symbol : Option String := none
  side : Option Side := none
  kind : Option OrderKind := none
  price : Option Decimal := none
  moment : Option LocalDateTime := none
  outcomes : Option String := none
  calendar : Option String := none
  quantity : Option Nat := none
  equity : Option Decimal := none
  peakEquity : Option Decimal := none
  dailyPnl : Option Decimal := none
  weeklyPnl : Option Decimal := none

/-! ## Options -/

def settingsOption : OptionSpec Values :=
  .once "config" path? Values.settings fun a v => { v with settings := some a }

def symbolOption : OptionSpec Values :=
  .once "symbol" some Values.symbol fun a v => { v with symbol := some a }

def momentOption : OptionSpec Values :=
  .once "at" LocalDateTime.parseTyped? Values.moment fun a v => { v with moment := some a }

def calendarOption : OptionSpec Values :=
  .once "calendar" path? Values.calendar fun a v => { v with calendar := some a }

/-- The options of a command. -/
def options : Name → List (OptionSpec Values)
  | .plan =>
    [ settingsOption,
      symbolOption,
      .once "side" side? Values.side fun a v => { v with side := some a },
      .once "kind" kind? Values.kind fun a v => { v with kind := some a },
      .once "price" amount? Values.price fun a v => { v with price := some a },
      momentOption,
      .once "outcomes" some Values.outcomes fun a v => { v with outcomes := some a },
      calendarOption ]
  | .caps =>
    [ settingsOption,
      .once "quantity" contracts? Values.quantity fun a v => { v with quantity := some a },
      .once "equity" amount? Values.equity fun a v => { v with equity := some a },
      .once "peak-equity" amount? Values.peakEquity fun a v => { v with peakEquity := some a },
      (.once "daily-pnl" amount? Values.dailyPnl fun a v => { v with dailyPnl := some a }
        : OptionSpec Values).dashed,
      (.once "weekly-pnl" amount? Values.weeklyPnl fun a v => { v with weeklyPnl := some a }
        : OptionSpec Values).dashed ]
  | .session => [settingsOption, symbolOption, momentOption, calendarOption]
  | .config => [settingsOption]

/-- The command of a name with the values of its options; `none` if a value is missing that has no
default. -/
def ofValues? (v : Values) : Name → Option Command
  | .plan => do
    return .plan (← v.symbol) (← v.side) (v.kind.getD .limit) (← v.price) v.moment
      (v.outcomes.getD "") v.calendar
  | .caps =>
    some (.caps
      { accountQuantity := v.quantity.getD 0
        equity := v.equity.getD .zero
        peakEquity := v.peakEquity.getD .zero
        dailyPnl := v.dailyPnl.getD .zero
        weeklyPnl := v.weeklyPnl.getD .zero })
  | .session => do return .session (← v.symbol) (← v.moment) (← v.calendar)
  | .config => some .config

/-- The file with the calendar of a command. -/
def calendar? : Command → Option String
  | .plan _ _ _ _ _ _ calendar => calendar
  | .session _ _ calendar => some calendar
  | _ => none

end Command

namespace Invocation

open Command

/-- A request for help may name one command, or the request itself. -/
def parseHelp : List String → Halt
  | [] => .help .overview
  | ["help"] => .help .help
  | [name] =>
    match Name.ofString? name with
    | some name => .help (.command name)
    | none => .usage
  | _ => .usage

/-- Reads the options of a command and nothing else: the command, and the file with the settings if
it is given here. -/
def parseCommand (name : Name) (args : List String) : Except Halt (Command × Option String) := do
  match ← scan (.command name) (options name) (.settled {}) args with
  | (p, []) =>
    let v ← p.settle
    match ofValues? v name with
    | some command => return (command, v.settings)
    | none => .error .usage
  | _ => .error .usage

/-- Reads a command line.  A value that waits in front of the name of a command is taken over after
the command has been read, and not at all if that is a request for help. -/
def parse (args : List String) : Except Halt Invocation := do
  match ← scan .overview [settingsOption] (.settled {}) args with
  | (_, []) => .error .usage
  | (p, word :: rest) =>
    if word = "help" then .error (parseHelp rest)
    else
      match Name.ofString? word with
      | none => .error .usage
      | some name =>
        let (command, settings) ← parseCommand name rest
        let before ← p.settle
        return ⟨settings <|> before.settings, command⟩

/-- The files that an invocation needs. -/
def paths (i : Invocation) : List String :=
  i.settings.toList ++ i.command.calendar?.toList

end Invocation

end EntryGate
