import EntryGate.Binary64
import EntryGate.Command.Arguments
import EntryGate.Command.Help
import EntryGate.Command.Invocation
import EntryGate.Command.Outcomes
import EntryGate.Command.Report
import EntryGate.Command.Run
import EntryGate.Decimal.Arithmetic
import EntryGate.Decimal.Basic
import EntryGate.Decimal.Text
import EntryGate.Document.Basic
import EntryGate.Document.Codec
import EntryGate.Document.Json
import EntryGate.Document.Toml.Lexeme
import EntryGate.Document.Toml.Reader
import EntryGate.Document.Toml.Tree
import EntryGate.Document.Toml.Writer
import EntryGate.EventLog
import EntryGate.Fault
import EntryGate.Gate
import EntryGate.Identifier
import EntryGate.Intent
import EntryGate.Ledger
import EntryGate.Main
import EntryGate.Order
import EntryGate.Plan
import EntryGate.Planner
import EntryGate.Power
import EntryGate.Proofs.Admission
import EntryGate.Proofs.CalendarLookup
import EntryGate.Proofs.CapsOrder
import EntryGate.Proofs.DayCircle
import EntryGate.Proofs.DecimalExactness
import EntryGate.Proofs.DecimalQuotient
import EntryGate.Proofs.DecimalRounding
import EntryGate.Proofs.DecimalValue
import EntryGate.Proofs.EventStream
import EntryGate.Proofs.ExactLedger
import EntryGate.Proofs.FixedDistanceStops
import EntryGate.Proofs.GateHistory
import EntryGate.Proofs.HighWaterMark
import EntryGate.Proofs.InstantOrder
import EntryGate.Proofs.Interleaving
import EntryGate.Proofs.InterruptedFill
import EntryGate.Proofs.LimitPrices
import EntryGate.Proofs.LockoutHistory
import EntryGate.Proofs.LockoutPhases
import EntryGate.Proofs.LockoutReason
import EntryGate.Proofs.MissingOpinions
import EntryGate.Proofs.NestedComposites
import EntryGate.Proofs.NumberText
import EntryGate.Proofs.OutcomeBroadcast
import EntryGate.Proofs.OutcomeReplay
import EntryGate.Proofs.PeriodResults
import EntryGate.Proofs.PlanOutcomes
import EntryGate.Proofs.PlanningFootprint
import EntryGate.Proofs.ProfitIdentity
import EntryGate.Proofs.Recent
import EntryGate.Proofs.RestoredValues
import EntryGate.Proofs.RoundTrip
import EntryGate.Proofs.RoundedSums
import EntryGate.Proofs.RuleAgreement
import EntryGate.Proofs.RulePolling
import EntryGate.Proofs.RuleTree
import EntryGate.Proofs.SessionQueries
import EntryGate.Proofs.SettingsValidation
import EntryGate.Proofs.SizingBands
import EntryGate.Proofs.StopDistance
import EntryGate.Proofs.StopLineage
import EntryGate.Proofs.TableEntries
import EntryGate.Proofs.TickRounding
import EntryGate.Proofs.TimeText
import EntryGate.Proofs.TrailingLineage
import EntryGate.Proofs.UnitPrices
import EntryGate.Proofs.WindowRoundTrip
import EntryGate.Proofs.WindowText
import EntryGate.Risk.Caps
import EntryGate.Risk.Lockout
import EntryGate.Risk.LossGuard
import EntryGate.Risk.Mode
import EntryGate.Risk.Rule
import EntryGate.Session.Calendar
import EntryGate.Session.Gate
import EntryGate.Session.Window
import EntryGate.Settings
import EntryGate.Sizing.Sizer
import EntryGate.Sizing.Tier
import EntryGate.Stop.Strategy
import EntryGate.Stop.Tracker
import EntryGate.Stop.Trailing
import EntryGate.Table
import EntryGate.Text.Blank
import EntryGate.Text.Case
import EntryGate.Text.Digits
import EntryGate.Text.Hidden
import EntryGate.Text.Quoted
import EntryGate.Text.Scan
import EntryGate.Time.Date
import EntryGate.Time.History
import EntryGate.Time.Instant
import EntryGate.Time.LocalDateTime
import EntryGate.Time.TimeOfDay
import EntryGate.Time.Zone
