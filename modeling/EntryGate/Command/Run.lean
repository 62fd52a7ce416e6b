import EntryGate.Command.Invocation
import EntryGate.Command.Outcomes
import EntryGate.Command.Report

/-!
# Running commands

A command depends on the world in four ways: it reads files, it looks at the clock, it looks time
zones up, and it needs an identifier that nobody else uses.  All four are given to it, so that
running a command is a function.

* `Environment` is what a command sees of the world;
* `Invocation.run` carries out an invocation;
* `Failure` is what can keep it from giving an answer, with a message and an exit code.
-/

namespace EntryGate

/-- What a command sees of the world. -/
structure Environment where
  /-- The content of a file, if it can be read. -/
  files : String → Option String
  /-- The readings of the clock, one after the other. -/
  clock : Nat → Instant
  /-- The time zones that there are. -/
  zones : ZoneTable
  /-- An identifier for the orders of a plan. -/
  freshId : String

/-- What a command prints. -/
inductive Output where
  | report (d : Document)
  | text (s : String)

namespace Output

def render : Output → String
  | .report d => Json.renderIndented 0 d ++ "\n"
  | .text s => s

end Output

/-- Why a command gives no answer. -/
inductive Failure where
  | usage
  | unreadableSettings (path : String)
  | unreadableCalendar (path : String)
  | settings (e : SettingsError)
  | unknownOutcome (c : Char)
  | fault (f : Fault)
deriving DecidableEq

namespace Failure

def message : Failure → String
  | .usage => "invalid arguments"
  | .unreadableSettings path => "failed to load config from " ++ path
  | .unreadableCalendar path => "failed to load calendar from " ++ path
  | .settings e => e.message
  | .unknownOutcome c => "unknown outcome '" ++ String.ofList [c] ++ "'; use W or L"
  | .fault f => f.message

/-- The first line of the message; a line ends with a line feed, which a carriage return may
precede. -/
def headline (f : Failure) : String :=
  let line := f.message.toList.takeWhile fun c => c != '\n'
  String.ofList (if line.getLast? = some '\r' then line.dropLast else line)

/-- Mistakes in the arguments and faults have exit codes of their own. -/
def exitCode : Failure → Nat
  | .usage => 2
  | .fault _ => 101
  | _ => 1

end Failure

namespace Environment

/-- The settings of a file, or the default ones without a file. -/
def loadSettings (env : Environment) : Option String → Except Failure Settings
  | none => .ok .defaults
  | some path =>
    match (env.files path).map (Settings.parse env.zones) with
    | some (.ok s) => .ok s
    | _ => .error (.unreadableSettings path)

/-- The calendar of a file, or the empty one without a file. -/
def loadCalendar (env : Environment) : Option String → Except Failure CalendarProvider
  | none => .ok .none
  | some path =>
    match (env.files path).bind DayTable.parse? with
    | some t => .ok t.load?
    | none => .error (.unreadableCalendar path)

/-- The gate for settings and a calendar. -/
def openGate (env : Environment) (s : Settings) (calendar : Option String) :
    Except Failure Gate := do
  let provider ← env.loadCalendar calendar
  match Gate.ofSettings env.zones s provider (env.clock 0) with
  | .ok g => return g
  | .error (.settings e) => .error (.settings e)
  | .error (.fault f) => .error (.fault f)

end Environment

namespace Command

/-- A value, or the fault that took its place. -/
def orFault {α : Type} : Except Fault α → Except Failure α
  | .ok a => .ok a
  | .error f => .error (.fault f)

/-- Plans an entry after a history of outcomes.  The clock is read once for each outcome, once for
the time of the request, and once for its evaluation. -/
def planEntry (env : Environment) (g : Gate) (outcomes : List Bool) (symbol : String) (side : Side)
    (kind : OrderKind) (price : Decimal) (moment : Option LocalDateTime) :
    Except Failure PlanReport := do
  let n := outcomes.length
  let g := (Outcomes.replay env.clock 0 outcomes g).setClock (env.clock n)
  let request ← orFault (g.request symbol side kind price)
  let request := { request with now := moment.getD request.now }
  let (g, answer) := (g.setClock (env.clock (n + 1))).plan env.freshId request
  return ⟨← orFault answer, g.lockout.state, g.lockout.streak, g.events⟩

/-- Checks an account against the caps. -/
def checkCaps (caps : RiskCaps) (snapshot : RiskSnapshot) : Except Failure CapsReport := do
  let decision ← orFault (caps.evaluate snapshot)
  let drawdown ← orFault snapshot.drawdown
  return ⟨decision, drawdown⟩

/-- Carries out a command under settings. -/
def run (env : Environment) (s : Settings) : Command → Except Failure Output
  | .plan symbol side kind price moment outcomes calendar => do
    let g ← env.openGate s calendar
    match Outcomes.parse outcomes with
    | .error c => .error (.unknownOutcome c)
    | .ok outcomes =>
      let report ← planEntry env g outcomes symbol side kind price moment
      return .report report.encode
  | .caps snapshot => do
    let report ← checkCaps s.caps snapshot
    return .report report.encode
  | .session symbol moment calendar => do
    let g ← env.openGate s (some calendar)
    return .report (SessionReport.encode ⟨symbol, moment, g.session.blocking? symbol moment⟩)
  | .config =>
    match s.write with
    | .ok text => .ok (.text text)
    | .error e => .error (.settings e)

end Command

namespace Invocation

/-- Carries out an invocation. -/
def run (env : Environment) (i : Invocation) : Except Failure Output := do
  let s ← env.loadSettings i.settings
  i.command.run env s

end Invocation

end EntryGate
