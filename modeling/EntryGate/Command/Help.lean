/-!
# Help

The pages of help that are printed on request: an overview of the commands, and a page for each of
them.  A page tells what a command is for, how it is used, and what its arguments mean.

* `Command.Name` names a command, `Command.Topic` a page;
* `Command.help` is the text of a page.
-/

namespace EntryGate

namespace Command

/-- The commands that do something other than give help. -/
inductive Name where
  | plan
  | caps
  | session
  | config
deriving DecidableEq, Repr

namespace Name

def ofString? : String → Option Name
  | "plan" => some .plan
  | "caps" => some .caps
  | "session" => some .session
  | "config" => some .config
  | _ => none

/-- What a command is for. -/
def summary : Name → String
  | .plan => "Build an entry plan (entry + protective stop) for one intent"
  | .caps => "Evaluate the configured risk caps against an account snapshot"
  | .session => "Report the window blocking a symbol at an exchange-local time"
  | .config => "Print the effective configuration after validation"

end Name

/-- What help is about. -/
inductive Topic where
  | overview
  | command (name : Name)
  /-- The request for help itself. -/
  | help
deriving DecidableEq, Repr

/-- A command or an argument with its meaning. -/
structure HelpEntry where
  label : String
  meaning : String
deriving DecidableEq, Repr

namespace HelpEntry

/-- An option with the placeholder for its value. -/
def option (name value meaning : String) : HelpEntry :=
  ⟨"    --" ++ name ++ " <" ++ value ++ ">", meaning⟩

/-- The line of an entry, with the label filled up to a width. -/
def line (width : Nat) (e : HelpEntry) : String :=
  "  " ++ e.label ++ String.ofList (List.replicate (width - e.label.length + 2) ' ') ++ e.meaning
    ++ "\n"

end HelpEntry

/-- Entries under a title. -/
structure HelpSection where
  title : String
  entries : List HelpEntry
deriving DecidableEq, Repr

namespace HelpSection

/-- A section after a blank line, with the meanings of its entries in one column. -/
def render (s : HelpSection) : String :=
  let width := s.entries.foldl (fun w e => max w e.label.length) 0
  "\n" ++ s.title ++ ":\n" ++ String.join (s.entries.map (HelpEntry.line width))

end HelpSection

/-- A page of help. -/
structure HelpPage where
  summary : String
  usage : String
  sections : List HelpSection
deriving DecidableEq, Repr

namespace HelpPage

def render (p : HelpPage) : String :=
  p.summary ++ "\n\nUsage: tradeguard " ++ p.usage ++ "\n"
    ++ String.join (p.sections.map HelpSection.render)

end HelpPage

/-! ## The pages -/

/-- The options of a page, among them those that every page has. -/
def optionSection (more : List HelpEntry) : HelpSection :=
  ⟨"Options",
    [.option "config" "CONFIG" "Path to a TOML config file. Defaults apply when omitted"]
      ++ more ++ [⟨"-h, --help", "Print help"⟩]⟩

def calendarEntry : HelpEntry :=
  .option "calendar" "CALENDAR" "Calendar JSON file with settlement and blackout windows"

def requestSummary : String := "Print this message or the help of the given subcommand(s)"

def overviewPage : HelpPage where
  summary := "TradeGuard CLI: risk gating and order planning for futures entries"
  usage := "[OPTIONS] <COMMAND>"
  sections :=
    [ ⟨"Commands",
        [ ⟨"plan", Name.summary .plan⟩,
          ⟨"caps", Name.summary .caps⟩,
          ⟨"session", Name.summary .session⟩,
          ⟨"config", Name.summary .config⟩,
          ⟨"help", requestSummary⟩ ]⟩,
      optionSection [] ]

/-- The form in which a command is given. -/
def usage : Name → String
  | .plan => "plan [OPTIONS] --symbol <SYMBOL> --side <SIDE> --price <PRICE>"
  | .caps => "caps [OPTIONS]"
  | .session => "session [OPTIONS] --symbol <SYMBOL> --at <AT> --calendar <CALENDAR>"
  | .config => "config [OPTIONS]"

/-- The options that belong to a command alone. -/
def optionEntries : Name → List HelpEntry
  | .plan =>
    [ .option "symbol" "SYMBOL" "Instrument symbol (e.g., ES, CL)",
      .option "side" "SIDE"
        "Direction of the desired position [possible values: long, short, flat]",
      .option "kind" "KIND"
        ("Order kind for the entry [default: limit] [possible values: market, limit, stop-market, "
          ++ "stop-limit]"),
      .option "price" "PRICE" "Limit/stop price, or the reference price for market kinds",
      .option "at" "AT" "Exchange-local time (YYYY-MM-DD HH:MM). Defaults to now",
      .option "outcomes" "OUTCOMES"
        ("Outcomes to replay before planning, oldest first (e.g., \"LWL\") [default: \"\"]"),
      calendarEntry ]
  | .caps =>
    [ .option "quantity" "QUANTITY" "Contracts currently held [default: 0]",
      .option "equity" "EQUITY" "Current account equity [default: 0]",
      .option "peak-equity" "PEAK_EQUITY" "Peak account equity [default: 0]",
      .option "daily-pnl" "DAILY_PNL" "Realized P&L for the day [default: 0]",
      .option "weekly-pnl" "WEEKLY_PNL" "Realized P&L for the week [default: 0]" ]
  | .session =>
    [ .option "symbol" "SYMBOL" "Instrument symbol",
      .option "at" "AT" "Exchange-local time (YYYY-MM-DD HH:MM)",
      calendarEntry ]
  | .config => []

/-- The page on a topic. -/
def page : Topic → HelpPage
  | .overview => overviewPage
  | .command name => ⟨name.summary, usage name, [optionSection (optionEntries name)]⟩
  | .help =>
    ⟨requestSummary, "help [COMMAND]...",
      [⟨"Arguments", [⟨"[COMMAND]...", "Print help for the subcommand(s)"⟩]⟩]⟩

/-- The text of a page. -/
def help (topic : Topic) : String :=
  (page topic).render

end Command

end EntryGate
