import EntryGate.Proofs.OutcomeBroadcast
import Mathlib.Data.List.DropRight

/-!
# The events of a gate

Every answered request is reported, and a log keeps the most recent reports that its settings ask
for.  Nothing that a gate decides depends on its log.

* `Planner.RefusedAt` says which gate refuses a request and why, without mentioning events, and
  `Planner.Reports` which events an answer comes with.  `Planner.reports_build` is the agreement of
  the planner with both;
* `EventSettings.kept` is what settings keep of a stream of events.  `FilteredLog.Holds.capture` is the
  step of one event, and `Gate.Logs.runSteps` the history as a whole;
* `Gate.quiet` is a gate without its log, and `Gate.quiet_runSteps` says that it goes through a
  history as the gate itself does;
* `Gate.event_stream` is the result for gates and for pairs of gates.
-/

namespace EntryGate

open Text

/-! ## Reports -/

namespace Planner

variable {ρ : Type}

/-- The request reaches the session gate. -/
structure PassesRisk (p : Planner ρ) (state : ρ) (r : EntryRequest) : Prop where
  symbol : r.symbol ≠ ""
  side : r.side ≠ .flat
  risk : (p.risk state r.intent).2 = .ok none

/-- The request reaches the price gate. -/
structure PassesSizing (p : Planner ρ) (state : ρ) (r : EntryRequest) : Prop
    extends PassesRisk p state r where
  session : p.session.blocking? r.symbol r.now = none
  quantity : (p.sizer.decide r.intent p.mode).quantity ≠ 0

/-- The request reaches the stop gate, with these prices for the entry and for its stop. -/
structure PassesPrice (p : Planner ρ) (state : ρ) (r : EntryRequest) (entry stop : Decimal) : Prop
    extends PassesSizing p state r where
  price : ¬(r.kind.isPriceBased = true ∧ r.price ≤ .zero)
  entering : entryPrice r = .ok entry
  protecting : p.stopPrice r entry = .ok stop

/-- The gate that refuses a request, and its reason. -/
inductive RefusedAt (p : Planner ρ) (state : ρ) (r : EntryRequest) : String → String → Prop
  | symbol (h : r.symbol = "") : RefusedAt p state r "intent" "symbol missing"
  | side (hsymbol : r.symbol ≠ "") (h : r.side = .flat) : RefusedAt p state r "intent" "flat intent"
  | risk {reason : String} (hsymbol : r.symbol ≠ "") (hside : r.side ≠ .flat)
      (h : (p.risk state r.intent).2 = .ok (some reason)) : RefusedAt p state r "risk" reason
  | session {block : SessionBlock} (hpasses : PassesRisk p state r)
      (h : p.session.blocking? r.symbol r.now = some block) :
      RefusedAt p state r "session" "session window"
  | sizing (hpasses : PassesRisk p state r) (hsession : p.session.blocking? r.symbol r.now = none)
      (h : (p.sizer.decide r.intent p.mode).quantity = 0) :
      RefusedAt p state r "sizing" (sizeReason (p.sizer.decide r.intent p.mode))
  | price (hpasses : PassesSizing p state r) (hkind : r.kind.isPriceBased = true)
      (h : r.price ≤ .zero) : RefusedAt p state r "price" "bad price"
  | stopLong {entry stop : Decimal} (hpasses : PassesPrice p state r entry stop)
      (hside : r.side.isLong = true) (h : entry ≤ stop) :
      RefusedAt p state r "stop" "stop side invalid (long)"
  | stopShort {entry stop : Decimal} (hpasses : PassesPrice p state r entry stop)
      (hside : r.side.isLong = false) (h : stop ≤ entry) :
      RefusedAt p state r "stop" "stop side invalid (short)"

/-- The message about the window that blocks a request. -/
def blockMessage (r : EntryRequest) (block : SessionBlock) : String :=
  r.symbol ++ " blocked by " ++ block.render ++ " at " ++ r.now.renderSpaced

/-- The events that come with a plan: one for an acceptance, one for a refusal, and one more before it
if the refusal is that of the session gate. -/
inductive Reports (p : Planner ρ) (state : ρ) (r : EntryRequest) :
    EntryPlan → List DiagnosticEvent → Prop
  | accepted {plan : EntryPlan} (h : plan.accepted = true) :
      Reports p state r plan [⟨"plan", r.symbol ++ " accepted oco=" ++ plan.ocoGroup⟩]
  | refused {plan : EntryPlan} {gate : String} (h : plan.accepted = false)
      (hat : RefusedAt p state r gate plan.reason) (hgate : gate ≠ "session") :
      Reports p state r plan [⟨gate, plan.reason⟩]
  | blocked {plan : EntryPlan} {block : SessionBlock} (h : plan.accepted = false)
      (hat : RefusedAt p state r "session" plan.reason)
      (hblock : p.session.blocking? r.symbol r.now = some block) :
      Reports p state r plan [⟨"session", blockMessage r block⟩, ⟨"session", plan.reason⟩]

section Build

variable {p : Planner ρ} {state next : ρ} {r : EntryRequest} {oco : String} {plan : EntryPlan}

theorem reason_rejected {reason : String} (h : reason ≠ "") :
    (EntryPlan.rejected reason).reason = reason := by
  have hfilled : ¬reason.isEmpty = true := fun hempty => h (String.isEmpty_iff.1 hempty)
  exact if_neg hfilled

theorem sizeReason_ne_empty (d : SizeDecision) : sizeReason d ≠ "" := by
  rw [sizeReason]
  by_cases hempty : d.reason.isEmpty = true
  · rw [if_pos hempty]
    decide
  · rw [if_neg hempty]
    intro hreason
    exact hempty (String.isEmpty_iff.2 hreason)

/-- A refusal with a reason reports itself. -/
theorem reports_refuse {gate reason : String} (hat : RefusedAt p state r gate reason)
    (hgate : gate ≠ "session") (hreason : reason ≠ "")
    (h : (refuse next gate reason).plan = .ok plan) :
    Reports p state r plan (refuse next gate reason).events := by
  cases h
  have hsame := reason_rejected hreason
  rw [refuse, show (⟨gate, reason⟩ : DiagnosticEvent) = ⟨gate, (EntryPlan.rejected reason).reason⟩ by
    rw [hsame]]
  refine .refused rfl ?_ hgate
  rw [hsame]
  exact hat

/-- What the price gate and the stop gate can answer to a request that reaches them. -/
theorem priceOrders_cases (hpasses : PassesSizing p state r) {quantity : Nat} {verdict : Verdict}
    (h : p.priceOrders oco r quantity = .ok verdict) :
    (∃ gate reason, verdict = .reject gate reason ∧ RefusedAt p state r gate reason ∧
        gate ≠ "session" ∧ reason ≠ "") ∨
      ∃ entry stop, verdict = .accept (orders r quantity entry stop oco) ∧
        PassesPrice p state r entry stop ∧ r.Protects entry stop := by
  rcases priceOrders_eq_ok h with ⟨hprice, rfl⟩ | ⟨entry, stop, hprice, hentry, hstop, hverdict⟩
  · exact .inl ⟨_, _, rfl, .price hpasses hprice.1 hprice.2, by decide, by decide⟩
  · have hpriced : PassesPrice p state r entry stop := ⟨hpasses, hprice, hentry, hstop⟩
    rcases hverdict with ⟨hside, rfl⟩ | ⟨hside, rfl⟩
    · exact .inr ⟨entry, stop, rfl, hpriced, hside⟩
    · left
      rw [sideReason]
      -- the side of the request decides which of the two reasons it is
      rcases Classical.not_not.1 (mt protects_iff.2 hside) with ⟨hlong, hle⟩ | ⟨hshort, hle⟩
      · rw [if_pos hlong]
        exact ⟨_, _, rfl, .stopLong hpriced hlong hle, by decide, by decide⟩
      · rw [if_neg hshort]
        exact ⟨_, _, rfl, .stopShort hpriced (Bool.eq_false_iff.2 hshort) hle, by decide, by decide⟩

theorem reports_afterRisk (hpasses : PassesRisk p state r)
    (h : (p.afterRisk oco r next).plan = .ok plan) :
    Reports p state r plan (p.afterRisk oco r next).events := by
  cases hblock : p.session.blocking? r.symbol r.now with
  | some block =>
    rw [afterRisk, hblock] at h ⊢
    cases h
    exact .blocked rfl (.session hpasses hblock) hblock
  | none =>
    by_cases hzero : (p.sizer.decide r.intent p.mode).quantity = 0
    · simp only [afterRisk, hblock, hzero, if_true] at h ⊢
      exact reports_refuse (.sizing hpasses hblock hzero) (by decide) (sizeReason_ne_empty _) h
    · have hsized : PassesSizing p state r := ⟨hpasses, hblock, hzero⟩
      simp only [afterRisk, hblock, hzero, if_false] at h ⊢
      cases hverdict : p.priceOrders oco r (p.sizer.decide r.intent p.mode).quantity with
      | error fault => simp [hverdict] at h
      | ok verdict =>
        rcases priceOrders_cases hsized hverdict with
          ⟨gate, reason, rfl, hat, hgate, hreason⟩ | ⟨entry, stop, rfl, -⟩
        · rw [hverdict] at h
          exact reports_refuse hat hgate hreason h
        · rw [hverdict] at h
          cases h
          exact .accepted rfl

/-- A request that gets a plan is reported by the gate that decides on it. -/
theorem reports_build
    (hreasons : r.symbol ≠ "" →
      ∀ reason, (p.risk state r.intent).2 = .ok (some reason) → reason ≠ "")
    (h : (p.build oco r state).plan = .ok plan) :
    Reports p state r plan (p.build oco r state).events := by
  rw [build] at h ⊢
  by_cases hsymbol : r.symbol = ""
  · have hempty : r.symbol.isEmpty = true := String.isEmpty_iff.2 hsymbol
    rw [if_pos hempty] at h ⊢
    exact reports_refuse (.symbol hsymbol) (by decide) (by decide) h
  · have hfilled : ¬r.symbol.isEmpty = true := fun hempty => hsymbol (String.isEmpty_iff.1 hempty)
    rw [if_neg hfilled] at h ⊢
    by_cases hside : r.side = .flat
    · have hflat : r.side.isFlat = true := by rw [hside]; rfl
      rw [if_pos hflat] at h ⊢
      exact reports_refuse (.side hsymbol hside) (by decide) (by decide) h
    · have hsided : ¬r.side.isFlat = true := by
        intro hflat
        cases hr : r.side with
        | flat => exact hside hr
        | long => rw [hr] at hflat; cases hflat
        | short => rw [hr] at hflat; cases hflat
      rw [if_neg hsided] at h ⊢
      have hrisk := hreasons hsymbol
      rcases hanswer : p.risk state r.intent with ⟨next, fault | _ | reason⟩
      · rw [hanswer] at h
        cases h
      · rw [hanswer] at h
        exact reports_afterRisk ⟨hsymbol, hside, by rw [hanswer]⟩ h
      · rw [hanswer] at h hrisk
        exact reports_refuse (.risk hsymbol hside (by rw [hanswer])) (by decide) (hrisk reason rfl) h

theorem events_afterRisk_of_fault {fault : Fault} (h : (p.afterRisk oco r next).plan = .error fault) :
    (p.afterRisk oco r next).events = [] := by
  rw [afterRisk] at h ⊢
  cases hblock : p.session.blocking? r.symbol r.now with
  | some block =>
    rw [hblock] at h
    cases h
  | none =>
    by_cases hzero : (p.sizer.decide r.intent p.mode).quantity = 0
    · simp [hblock, hzero, refuse] at h
    · simp only [hblock, hzero, if_false] at h ⊢
      rcases hverdict : p.priceOrders oco r (p.sizer.decide r.intent p.mode).quantity with
        fault | ⟨gate, reason⟩ | plan
      · rfl
      · rw [hverdict] at h
        cases h
      · rw [hverdict] at h
        cases h

/-- A request that ends in a fault is not reported. -/
theorem events_build_of_fault {fault : Fault} (h : (p.build oco r state).plan = .error fault) :
    (p.build oco r state).events = [] := by
  rw [build] at h ⊢
  by_cases hsymbol : r.symbol.isEmpty = true
  · rw [if_pos hsymbol] at h
    cases h
  · rw [if_neg hsymbol] at h ⊢
    by_cases hflat : r.side.isFlat = true
    · rw [if_pos hflat] at h
      cases h
    · rw [if_neg hflat] at h ⊢
      rcases hanswer : p.risk state r.intent with ⟨next, fault | _ | reason⟩
      · rfl
      · rw [hanswer] at h
        exact events_afterRisk_of_fault h
      · rw [hanswer] at h
        cases h

end Build

end Planner

/-! ## Logs -/

namespace EventSettings

/-- Settings ask for an event if they name its tag, in any case and with blanks around it, or if they
name no tag at all. -/
def Wants (s : EventSettings) (e : DiagnosticEvent) : Prop :=
  (∀ t ∈ s.tags, lower (trim t) = "") ∨
    ∃ t ∈ s.tags, lower (trim t) ≠ "" ∧ lower (trim t) = lower e.tag

instance (s : EventSettings) (e : DiagnosticEvent) : Decidable (s.Wants e) :=
  inferInstanceAs (Decidable (_ ∨ _))

/-- The most recent events of those that the settings ask for, as many as there is room for. -/
def recent (s : EventSettings) (stream : List DiagnosticEvent) : List DiagnosticEvent :=
  (stream.filter fun e => decide (s.Wants e)).rtake (max s.capacity 1)

/-- What settings keep of a stream of events. -/
def kept (s : EventSettings) (stream : List DiagnosticEvent) : List DiagnosticEvent :=
  if s.enabled then s.recent stream else []

theorem admits_iff_wants (s : EventSettings) (e : DiagnosticEvent) :
    (TagFilter.ofTags s.tags).admits e.tag = true ↔ s.Wants e := by
  rw [TagFilter.admits, Bool.or_eq_true, List.isEmpty_iff, List.contains_iff_mem, TagFilter.ofTags,
    List.filter_eq_nil_iff, List.mem_filter, List.mem_map]
  constructor
  · rintro (hnone | ⟨⟨t, ht, htag⟩, hfilled⟩)
    · left
      intro t ht
      have hblank := hnone (lower (trim t)) (List.mem_map_of_mem ht)
      simpa using hblank
    · right
      refine ⟨t, ht, ?_, htag⟩
      rw [htag]
      simpa using hfilled
  · rintro (hnone | ⟨t, ht, hfilled, htag⟩)
    · left
      intro tag hmem
      obtain ⟨t, ht, rfl⟩ := List.mem_map.1 hmem
      simp [hnone t ht]
    · right
      refine ⟨⟨t, ht, htag⟩, ?_⟩
      rw [← htag]
      simpa using hfilled

end EventSettings

/-- One more element at the end pushes out the first one, if there is no room for both. -/
theorem rtake_append_singleton {α : Type} (xs : List α) (x : α) {n : Nat} (h : 0 < n) :
    (xs ++ [x]).rtake n =
      (if (xs.rtake n).length = n then (xs.rtake n).tail else xs.rtake n) ++ [x] := by
  simp only [List.rtake, List.length_drop, List.length_append, List.length_singleton]
  by_cases hroom : xs.length < n
  · have hall : xs.length + 1 - n = 0 := by omega
    have hbefore : xs.length - n = 0 := by omega
    rw [if_neg (by omega), hall, hbefore, List.drop_zero, List.drop_zero]
  · -- what is left out grows by one, and that one is the oldest of what was held before
    have hone : xs.length + 1 - n = xs.length - n + 1 := by omega
    rw [if_pos (by omega), hone, List.drop_append_of_le_length (by omega), List.tail_drop]

theorem EventLog.capture_of_enabled {l : EventLog} (h : l.enabled = true) (e : DiagnosticEvent) :
    l.capture e =
      { l with
        events := (if l.events.length = l.capacity then l.events.tail else l.events) ++ [e] } := by
  rw [capture, if_neg (by simp [h])]
  split <;> rfl

namespace FilteredLog

/-- A log for settings that has seen a stream of events. -/
structure Holds (s : EventSettings) (stream : List DiagnosticEvent) (l : FilteredLog) : Prop where
  filter : l.filter = .ofTags s.tags
  capacity : l.log.capacity = max s.capacity 1
  enabled : l.log.enabled = true
  events : l.log.events = s.recent stream

variable {s : EventSettings} {stream : List DiagnosticEvent} {l : FilteredLog}

theorem Holds.capture (h : Holds s stream l) (e : DiagnosticEvent) :
    Holds s (stream ++ [e]) (l.capture e) := by
  have hadmits : l.filter.admits e.tag = true ↔ s.Wants e := by
    rw [h.filter]
    exact s.admits_iff_wants e
  rw [FilteredLog.capture]
  by_cases hwants : s.Wants e
  · have hstream : s.recent (stream ++ [e]) =
        ((stream.filter fun e => decide (s.Wants e)) ++ [e]).rtake (max s.capacity 1) := by
      rw [EventSettings.recent, List.filter_append, List.filter_singleton, decide_eq_true hwants]
      rfl
    have hpos : 0 < max s.capacity 1 := by omega
    rw [if_pos (hadmits.2 hwants), EventLog.capture_of_enabled h.enabled]
    refine ⟨h.filter, h.capacity, h.enabled, ?_⟩
    -- the log is full exactly if the part of the stream that it holds is as long as it can be
    rw [hstream, rtake_append_singleton _ _ hpos, h.capacity, h.events, EventSettings.recent]
  · -- an event that nobody asked for leaves both sides as they are
    rw [if_neg fun hadmitted => hwants (hadmits.1 hadmitted)]
    refine ⟨h.filter, h.capacity, h.enabled, ?_⟩
    rw [h.events, EventSettings.recent, EventSettings.recent, List.filter_append,
      List.filter_singleton, decide_eq_false hwants]
    simp

theorem Holds.captureAll (h : Holds s stream l) (es : List DiagnosticEvent) :
    Holds s (stream ++ es) (l.captureAll es) := by
  induction es generalizing stream l with
  | nil =>
    rw [List.append_nil]
    exact h
  | cons e es ih =>
    have hrest := ih (h.capture e)
    rw [List.append_assoc] at hrest
    exact hrest

end FilteredLog

namespace Gate

/-! ## Streams -/

/-- The events that a step offers to the log. -/
def offered (g : Gate) : Step → List DiagnosticEvent
  | .act (.plan oco r) => (g.planner.build oco r g).events
  | _ => []

/-- The events that a history offers to the log, in order. -/
def stream (g : Gate) : List Step → List DiagnosticEvent
  | [] => []
  | e :: es => g.offered e ++ (g.step e).stream es

/-- The log of a gate for settings, after a stream of events. -/
inductive Logs (s : EventSettings) (stream : List DiagnosticEvent) : Option FilteredLog → Prop
  | on {l : FilteredLog} (henabled : s.enabled = true) (h : l.Holds s stream) :
      Logs s stream (some l)
  | off (hdisabled : s.enabled = false) : Logs s stream none

section Logs

variable {s : EventSettings} {past : List DiagnosticEvent} {g : Gate}

theorem Logs.captureAll {log : Option FilteredLog} (h : Logs s past log)
    (es : List DiagnosticEvent) : Logs s (past ++ es) (log.map fun l => l.captureAll es) := by
  cases h with
  | on henabled hholds => exact .on henabled (hholds.captureAll es)
  | off hdisabled => exact .off hdisabled

theorem Logs.events (h : Logs s past g.log) : g.events = s.kept past := by
  rw [Gate.events, EventSettings.kept]
  cases hlog : g.log with
  | none =>
    rw [hlog] at h
    cases h with
    | off hdisabled => rw [hdisabled]; rfl
  | some l =>
    rw [hlog] at h
    cases h with
    | on henabled hholds => rw [if_pos henabled]; exact hholds.events

/-- A step changes the log by the events that it offers. -/
theorem log_step (g : Gate) (e : Step) :
    (g.step e).log = g.log.map fun l => l.captureAll (g.offered e) := by
  have hsame : g.log = g.log.map fun l => l.captureAll [] := Option.map_id'.symm
  cases e with
  | poll =>
    rw [step, poll_fst]
    split <;> exact hsame
  | evaluate intent =>
    rw [step, evaluate_fst]
    split <;> exact hsame
  | act a =>
    cases a with
    | plan oco r =>
      -- the rules leave the log alone, and the events are captured once they have answered
      have hstate : (g.planner.build oco r g).state.log = g.log := by
        rw [Planner.state_build]
        split
        · show (g.evaluate r.intent).1.log = g.log
          rw [evaluate_fst]
          split <;> rfl
        · rfl
      show (g.planner.build oco r g).state.log.map _ = _
      rw [hstate]
      rfl
    | outcome win =>
      rw [step, act, record_eq]
      exact hsame
    | advance span =>
      rw [step, act, advance]
      split <;> exact hsame
    | snapshot s => exact hsame
    | enable enabled => exact hsame
    | manualLockout locked => exact hsame
    | forceLockout => exact hsame
    | setClock now => exact hsame

theorem Logs.runSteps (h : Logs s past g.log) (steps : List Step) :
    Logs s (past ++ g.stream steps) (g.runSteps steps).log := by
  induction steps generalizing past g with
  | nil =>
    rw [stream, List.append_nil]
    exact h
  | cons e es ih =>
    have hstep : Logs s (past ++ g.offered e) (g.step e).log := by
      rw [g.log_step e]
      exact h.captureAll (g.offered e)
    have hrest := ih hstep
    rw [List.append_assoc] at hrest
    exact hrest

end Logs

/-- A new log is empty. -/
theorem logs_logOf {s : EventSettings} {log : Option FilteredLog} (h : logOf s = .ok log) :
    Logs s [] log := by
  rw [logOf] at h
  cases henabled : s.enabled with
  | false =>
    rw [henabled] at h
    cases h
    exact .off henabled
  | true =>
    rw [henabled, if_pos rfl, EventLog.create] at h
    by_cases hlarge : EventLog.maxCapacity < s.capacity
    · rw [if_pos hlarge] at h
      cases h
    · rw [if_neg hlarge] at h
      cases h
      exact .on henabled ⟨rfl, rfl, rfl, (List.rtake_nil _).symm⟩

/-- The repair of a capacity makes room for one event at least, as every log does by itself. -/
theorem kept_repair (s : Settings) (stream : List DiagnosticEvent) :
    s.repair.diagnostics.kept stream = s.diagnostics.kept stream := by
  have hroom : max s.repair.diagnostics.capacity 1 = max s.diagnostics.capacity 1 := by
    show max (if s.diagnostics.capacity = 0 then 1 else s.diagnostics.capacity) 1 = _
    split <;> omega
  rw [EventSettings.kept, EventSettings.kept, EventSettings.recent, EventSettings.recent, hroom]
  rfl

theorem logs_ofSettings {zones : ZoneTable} {s : Settings} {calendar : CalendarProvider}
    {start : Instant} {g : Gate} (h : ofSettings zones s calendar start = .ok g) :
    Logs s.repair.diagnostics [] g.log := by
  obtain ⟨zone, log, -, hlog, rfl⟩ := parts_of_ofSettings h
  exact logs_logOf hlog

/-! ## Gates without a log -/

/-- The gate without its log and the settings for it. -/
def quiet (g : Gate) : Gate :=
  { g with settings := { g.settings with diagnostics := .defaults }, log := none }

/-- The step without the identifier that it gives to orders. -/
def Step.unlabelled : Step → Step
  | .act (.plan _ r) => .act (.plan "" r)
  | e => e

theorem Step.unlabelled_unlabelled (e : Step) : e.unlabelled.unlabelled = e.unlabelled := by
  cases e with
  | act a => cases a <;> rfl
  | poll => rfl
  | evaluate intent => rfl

/-- A step does the same to a gate and to the gate without its log. -/
theorem quiet_step (g : Gate) (e : Step) :
    (g.step e).quiet = (g.quiet.step e.unlabelled).quiet := by
  cases e with
  | poll =>
    show g.poll.1.quiet = g.quiet.poll.1.quiet
    rw [poll_fst, poll_fst]
    show _ = (if g.switch.isBlocked then g.quiet else _).quiet
    split <;> rfl
  | evaluate intent =>
    show (g.evaluate intent).1.quiet = (g.quiet.evaluate intent).1.quiet
    rw [evaluate_fst, evaluate_fst]
    show _ = (if g.switch.isBlocked then g.quiet else _).quiet
    split <;> rfl
  | act a =>
    cases a with
    | plan oco r =>
      -- the logs after the two requests differ, and so do their identifiers; nothing else does
      obtain ⟨log, hplan⟩ := g.plan_fst_eq oco r
      obtain ⟨log', hplan'⟩ := g.quiet.plan_fst_eq "" r
      show (g.plan oco r).1.quiet = (g.quiet.plan "" r).1.quiet
      rw [hplan, hplan']
      rfl
    | outcome win =>
      show (g.record win).quiet = (g.quiet.record win).quiet
      rw [record_eq, record_eq]
      rfl
    | advance span =>
      show (g.advance span).1.quiet = (g.quiet.advance span).1.quiet
      have hnow : g.quiet.now = g.now := rfl
      rw [advance, advance, hnow]
      cases g.now.add? span with
      | none => rfl
      | some now => rfl
    | snapshot s => rfl
    | enable enabled => rfl
    | manualLockout locked => rfl
    | forceLockout => rfl
    | setClock now => rfl

theorem quiet_runSteps (g : Gate) (steps : List Step) :
    (g.runSteps steps).quiet = (g.quiet.runSteps (steps.map Step.unlabelled)).quiet := by
  -- from the end, so that the step is taken from gates that agree without their logs already
  induction steps using List.reverseRecOn with
  | nil => rfl
  | append_singleton steps e ih =>
    rw [List.map_append, runSteps, runSteps, List.foldl_append, List.foldl_append]
    show ((g.runSteps steps).step e).quiet =
      ((g.quiet.runSteps (steps.map Step.unlabelled)).step e.unlabelled).quiet
    rw [quiet_step, ih, quiet_step (g.quiet.runSteps _), e.unlabelled_unlabelled]

/-- Plans do not depend on the log. -/
theorem unlabelled_plan_quiet (g : Gate) (oco oco' : String) (r : EntryRequest) :
    (g.plan oco r).2.map EntryPlan.unlabelled =
      (g.quiet.plan oco' r).2.map EntryPlan.unlabelled :=
  g.planner.unlabelled_build oco' oco r fun _ => rfl

/-- Two gates with the same rules at the same time, of which all answers are the same but for the
identifiers in plans. -/
structure Alike (g g' : Gate) : Prop where
  rule : g'.rule = g.rule
  now : g'.now = g.now
  poll : g'.poll.2 = g.poll.2
  evaluate : ∀ intent, (g'.evaluate intent).2 = (g.evaluate intent).2
  request : ∀ symbol side kind price,
    g'.request symbol side kind price = g.request symbol side kind price
  plan : ∀ oco oco' r,
    (g'.plan oco' r).2.map EntryPlan.unlabelled = (g.plan oco r).2.map EntryPlan.unlabelled

/-- No answer depends on the log. -/
theorem alike_of_quiet {g g' : Gate} (h : g'.quiet = g.quiet) : Alike g g' where
  rule := by
    show g'.quiet.rule = g.quiet.rule
    rw [h]
  now := by
    show g'.quiet.now = g.quiet.now
    rw [h]
  poll := by
    show g'.quiet.poll.2 = g.quiet.poll.2
    rw [h]
  evaluate intent := by
    show (g'.quiet.evaluate intent).2 = (g.quiet.evaluate intent).2
    rw [h]
  request symbol side kind price := by
    show g'.quiet.request symbol side kind price = g.quiet.request symbol side kind price
    rw [h]
  plan oco oco' r := by
    rw [unlabelled_plan_quiet g' oco' "", unlabelled_plan_quiet g oco "", h]

/-- Settings that differ in what they say about events make the same gate without a log. -/
theorem quiet_ofSettings {zones : ZoneTable} {s : Settings} {d : EventSettings}
    {calendar : CalendarProvider} {start : Instant} {g g' : Gate}
    (hg : ofSettings zones s calendar start = .ok g)
    (hg' : ofSettings zones { s with diagnostics := d } calendar start = .ok g') :
    g'.quiet = g.quiet := by
  obtain ⟨zone, log, hzone, -, rfl⟩ := parts_of_ofSettings hg
  obtain ⟨zone', log', hzone', -, rfl⟩ := parts_of_ofSettings hg'
  have hsame : zone' = zone := Except.ok.inj (hzone'.symm.trans hzone)
  rw [hsame]
  rfl

/-! ## Every history -/

theorem tagged_of_tracks {s : Settings} {session : SessionGate} {past : List Action} {g : Gate}
    (h : Tracks s session past g) {c : Checkpoint} (hc : c ∈ g.rule.checkpoints) : c.Tagged := by
  cases c with
  | guard guard =>
    have hguard : g.lossGuard = some guard := by
      cases hlossGuard : g.lossGuard with
      | none => simp [rule, rules, hlossGuard, Rule.checkpoints, Rule.checkpointsAll] at hc
      | some other =>
        simp [rule, rules, hlossGuard, Rule.checkpoints, Rule.checkpointsAll] at hc
        rw [hc]
    -- the guard of a gate has the tag that it was made with
    rw [h.lossGuard] at hguard
    obtain ⟨n, -, rfl⟩ := Option.map_eq_some_iff.1 hguard
    show LossGuard.defaultTag ≠ ""
    decide
  | lockout l => trivial
  | caps c => trivial
  | switch flags => trivial

/-- The rules of a gate give a reason whenever they refuse. -/
theorem reason_of_refusal {s : Settings} {session : SessionGate} {past : List Action} {g : Gate}
    (h : Tracks s session past g) {intent : PositionIntent} (hsymbol : intent.symbol ≠ "")
    {reason : String} (hrefused : (g.evaluate intent).2 = .ok (some reason)) : reason ≠ "" := by
  have hwalk : (Checkpoint.walk g.now g.rule.checkpoints).2 = .ok (some reason) := by
    rw [Rule.walk_evaluate hsymbol g.now g.rule]
    exact hrefused
  obtain ⟨before, c, after, hsplit, -, hc, -⟩ := Checkpoint.walk_of_refusal hwalk
  have hmem : c ∈ g.rule.checkpoints := by
    rw [hsplit]
    exact List.mem_append_right before List.mem_cons_self
  exact Checkpoint.reason_ne_empty (tagged_of_tracks h hmem) hc

/-- At every point of a history, a request that gets a plan offers the events that report it, and one
that ends in a fault offers none.  The log holds what the settings keep of all events so far.  A gate
with other settings for events, after the same history but for identifiers, gives the same answers
from the same rules. -/
theorem event_stream {zones : ZoneTable} {s : Settings} {calendar : CalendarProvider}
    {start : Instant} {g : Gate} (hg : ofSettings zones s calendar start = .ok g)
    (steps : List Step) :
    let reached := g.runSteps steps
    (∀ oco r,
        (∀ plan, (reached.plan oco r).2 = .ok plan →
          reached.planner.Reports reached r plan (reached.offered (.act (.plan oco r)))) ∧
        ∀ fault, (reached.plan oco r).2 = .error fault →
          reached.offered (.act (.plan oco r)) = []) ∧
      reached.events = s.diagnostics.kept (g.stream steps) ∧
      ∀ (d : EventSettings) (g' : Gate),
        ofSettings zones { s with diagnostics := d } calendar start = .ok g' →
        ∀ steps' : List Step, steps'.map Step.unlabelled = steps.map Step.unlabelled →
          Alike reached (g'.runSteps steps') := by
  intro reached
  refine ⟨?_, ?_, ?_⟩
  · intro oco r
    constructor
    · -- a refusal is reported with the reason of the plan, which is its own unless that is empty
      intro plan hplan
      obtain ⟨zone, hstart⟩ := counted_ofSettings hg
      have htracks := (hstart.runSteps steps).tracks
      refine Planner.reports_build ?_ hplan
      intro hsymbol reason hrefused
      exact reason_of_refusal htracks hsymbol hrefused
    · intro fault hfault
      exact Planner.events_build_of_fault hfault
  · have hlogs := (logs_ofSettings hg).runSteps steps
    rw [List.nil_append] at hlogs
    rw [hlogs.events, kept_repair]
  · intro d g' hg' steps' hsteps
    refine alike_of_quiet ?_
    calc
      (g'.runSteps steps').quiet
          = (g'.quiet.runSteps (steps'.map Step.unlabelled)).quiet := quiet_runSteps g' steps'
      _ = (g.quiet.runSteps (steps.map Step.unlabelled)).quiet := by
            rw [hsteps, quiet_ofSettings hg hg']
      _ = reached.quiet := (quiet_runSteps g steps).symm

/-- An accepted entry, one in a blackout and one behind the switch offer four events.  A log with room
for two of those tagged `session` or `plan` keeps the two about the blackout: they push out the first
one, and the last one is not asked for.  A gate without a log makes the same plans. -/
theorem event_stream_of_blackout :
    let calendar : CalendarProvider := fun _ _ => some ⟨none, ["09:55-10:05"]⟩
    let start : Instant := ⟨1756821600, 0, by decide, by decide, by decide⟩
    let s : Settings := { Settings.defaults with diagnostics := ⟨true, 2, [" Session ", "PLAN", ""]⟩ }
    let d : EventSettings := ⟨false, 0, []⟩
    let entry (time : TimeOfDay) : EntryRequest :=
      ⟨⟨⟨2025, 9, 2⟩, time⟩, "ES", .long, .limit, .whole false 5000 (by decide), .defaults,
        .quarter⟩
    let ten : TimeOfDay := ⟨36000, 0, by decide, by decide⟩
    let eleven : TimeOfDay := ⟨39600, 0, by decide, by decide⟩
    let steps : List Step :=
      [ .act (.plan "a" (entry eleven)), .act (.plan "b" (entry ten)), .act (.enable false),
        .act (.plan "c" (entry eleven)), .poll ]
    ∃ g g', ofSettings .exchanges s calendar start = .ok g ∧
      ofSettings .exchanges { s with diagnostics := d } calendar start = .ok g' ∧
      (g.stream steps).map DiagnosticEvent.tag = ["plan", "session", "session", "risk"] ∧
      (g.runSteps steps).events = s.diagnostics.kept (g.stream steps) ∧
      (g.runSteps steps).events =
        [ ⟨"session", "ES blocked by blackout 09:55-10:05 at 2025-09-02 10:00:00"⟩,
          ⟨"session", "session window"⟩ ] ∧
      Alike (g.runSteps steps) (g'.runSteps steps) := by
  intro calendar start s d entry ten eleven steps
  let g := assemble s.repair Zone.newYork (some ⟨.ofTags s.diagnostics.tags, .new 2⟩) calendar start
  let g' := assemble { s with diagnostics := d }.repair Zone.newYork none calendar start
  have hg : ofSettings .exchanges s calendar start = .ok g := rfl
  have hg' : ofSettings .exchanges { s with diagnostics := d } calendar start = .ok g' := rfl
  obtain ⟨-, hevents, halike⟩ := event_stream hg steps
  exact ⟨g, g', hg, hg', by decide +kernel, hevents, by decide +kernel, halike d g' hg' steps rfl⟩

end Gate
end EntryGate
