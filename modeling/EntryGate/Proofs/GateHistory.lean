import EntryGate.Proofs.Admission
import EntryGate.Proofs.Recent

/-!
# Admission after a history

A gate answers requests in between outcomes, snapshots, flips of its switch, forced lockouts and
moves of its clock, and many answers change its state themselves.  Whether a request is accepted is
nevertheless a question about the history, the settings and the request.

* `Gate.Changes` is all that one action does to the parts on which answers depend;
* `Gate.Tracks` says what a history has made of these parts.  `Gate.Tracks.act` is the step of one
  action, and `Gate.Tracks.run` the history as a whole;
* `Gate.Admissible` are the conditions of an entry, and `Gate.accepted_iff_admissible` says that the
  gate accepts exactly the requests that meet them.
-/

namespace EntryGate
namespace Gate

/-! ## Reading a history -/

namespace Action

def enabled? : Action → Option Bool
  | .enable enabled => some enabled
  | _ => none

def manualLockout? : Action → Option Bool
  | .manualLockout locked => some locked
  | _ => none

def snapshot? : Action → Option RiskSnapshot
  | .snapshot s => some s
  | _ => none

def outcome? : Action → Option Bool
  | .outcome win => some win
  | _ => none

end Action

/-- Whether the switch was last put on. -/
def enabledAfter (past : List Action) : Bool :=
  latest Action.enabled? true past

/-- Whether the switch was last locked by hand. -/
def lockedAfter (past : List Action) : Bool :=
  latest Action.manualLockout? false past

/-- The last snapshot that was set. -/
def snapshotAfter (past : List Action) : RiskSnapshot :=
  latest Action.snapshot? .empty past

/-- The number of losses since the last win. -/
def lossesAfter (past : List Action) : Nat :=
  (since (fun a => a.outcome? == some true) past).countP fun a => a.outcome? == some false

theorem lossesAfter_append (past : List Action) (a : Action) :
    lossesAfter (past ++ [a]) =
      (a.outcome?.map fun win => if win then 0 else lossesAfter past + 1).getD
        (lossesAfter past) := by
  rw [lossesAfter, since_append]
  cases ha : a.outcome? with
  | none => simp [ha, lossesAfter]
  | some win =>
    cases win with
    | true => simp
    | false => simp [ha, lossesAfter]

/-! ## What a history makes of a gate -/

/-- The parts of a gate on which its answers depend are as settings and history say.  The lockout is
left out: its state depends on the clock and on the requests as well. -/
structure Tracks (s : Settings) (session : SessionGate) (past : List Action) (g : Gate) : Prop where
  settings : g.settings = s
  session : g.session = session
  sizing : g.sizing = sizingOf s
  enabled : g.switch.enabled = enabledAfter past
  manual : g.switch.manualLockout = lockedAfter past
  snapshot : g.snapshot = snapshotAfter past
  lossGuard : g.lossGuard = s.lockout.maxConsecutiveLosses.map fun n =>
    ⟨max n 1, LossGuard.defaultTag, min (lossesAfter past) Count.max⟩

theorem tracks_assemble (s : Settings) (zone : Zone) (log : Option FilteredLog)
    (calendar : CalendarProvider) (now : Instant) :
    Tracks s ⟨calendar, zone⟩ [] (assemble s zone log calendar now) where
  settings := rfl
  session := rfl
  sizing := rfl
  enabled := rfl
  manual := rfl
  snapshot := rfl
  lossGuard := rfl

/-! ### One action -/

/-- Outcomes reach the lockout and the guard, also behind a switch that refuses. -/
theorem record_eq (g : Gate) (win : Bool) :
    g.record win =
      { g with
        lockout := g.lockout.record g.now win
        lossGuard := g.lossGuard.map fun guard => guard.record win } := by
  -- the rules keep their number and order, which is how the gate finds their states again
  rw [record, rule, rules]
  cases g.lossGuard with
  | none => rfl
  | some guard => rfl

/-- A request changes the lockout and the log at most. -/
theorem plan_fst (g : Gate) (oco : String) (r : EntryRequest) :
    ∃ l log, (g.plan oco r).1 = { g with lockout := l, log := log } := by
  have hrisk : ∃ l, (g.evaluate r.intent).1 = { g with lockout := l } := by
    rw [evaluate_fst]
    split
    · exact ⟨g.lockout, rfl⟩
    · exact ⟨_, rfl⟩
  have hstate : ∃ l, (g.planner.build oco r g).state = { g with lockout := l } := by
    rw [Planner.state_build]
    split
    · exact hrisk
    · exact ⟨g.lockout, rfl⟩
  obtain ⟨l, hl⟩ := hstate
  refine ⟨l, ((g.planner.build oco r g).state.captureAll (g.planner.build oco r g).events).log, ?_⟩
  rw [plan, captureAll, hl]

/-- What an action does to the parts of a gate on which its answers depend. -/
structure Changes (a : Action) (g g' : Gate) : Prop where
  settings : g'.settings = g.settings
  session : g'.session = g.session
  sizing : g'.sizing = g.sizing
  enabled : g'.switch.enabled = a.enabled?.getD g.switch.enabled
  manual : g'.switch.manualLockout = a.manualLockout?.getD g.switch.manualLockout
  snapshot : g'.snapshot = a.snapshot?.getD g.snapshot
  lossGuard : g'.lossGuard =
    g.lossGuard.map fun guard => (a.outcome?.map guard.record).getD guard

theorem changes_act (g : Gate) (a : Action) : Changes a g (g.act a) := by
  have hguard : g.lossGuard = g.lossGuard.map fun guard => guard := Option.map_id'.symm
  cases a with
  | plan oco r =>
    obtain ⟨l, log, hplan⟩ := g.plan_fst oco r
    rw [act, hplan]
    exact ⟨rfl, rfl, rfl, rfl, rfl, rfl, hguard⟩
  | outcome win =>
    rw [act, record_eq]
    exact ⟨rfl, rfl, rfl, rfl, rfl, rfl, rfl⟩
  | advance span =>
    rw [act, advance]
    split <;> exact ⟨rfl, rfl, rfl, rfl, rfl, rfl, hguard⟩
  | snapshot snapshot => exact ⟨rfl, rfl, rfl, rfl, rfl, rfl, hguard⟩
  | enable enabled => exact ⟨rfl, rfl, rfl, rfl, rfl, rfl, hguard⟩
  | manualLockout locked => exact ⟨rfl, rfl, rfl, rfl, rfl, rfl, hguard⟩
  | forceLockout => exact ⟨rfl, rfl, rfl, rfl, rfl, rfl, hguard⟩
  | setClock now => exact ⟨rfl, rfl, rfl, rfl, rfl, rfl, hguard⟩

/-- The count of the guard follows that of the history, as far as it goes. -/
theorem record_min (tag : String) (limit losses : Nat) (win : Bool) :
    LossGuard.record ⟨limit, tag, min losses Count.max⟩ win =
      ⟨limit, tag, min (if win then 0 else losses + 1) Count.max⟩ := by
  cases win with
  | true => rfl
  | false =>
    rw [LossGuard.record, if_neg Bool.false_ne_true, if_neg Bool.false_ne_true,
      Lockout.nextStreak_min]

section Run

variable {s : Settings} {session : SessionGate} {past : List Action} {g : Gate}

theorem Tracks.act (h : Tracks s session past g) (a : Action) :
    Tracks s session (past ++ [a]) (g.act a) := by
  have hact := g.changes_act a
  refine ⟨?_, ?_, ?_, ?_, ?_, ?_, ?_⟩
  · rw [hact.settings, h.settings]
  · rw [hact.session, h.session]
  · rw [hact.sizing, h.sizing]
  · rw [hact.enabled, h.enabled, enabledAfter, enabledAfter, latest_append]
  · rw [hact.manual, h.manual, lockedAfter, lockedAfter, latest_append]
  · rw [hact.snapshot, h.snapshot, snapshotAfter, snapshotAfter, latest_append]
  · -- the count of the guard is capped, that of the history is not
    rw [hact.lossGuard, h.lossGuard, Option.map_map, lossesAfter_append]
    cases a.outcome? with
    | none => rfl
    | some win =>
      refine Option.map_congr fun n _ => ?_
      exact record_min LossGuard.defaultTag (max n 1) (lossesAfter past) win

theorem Tracks.run (h : Tracks s session [] g) (past : List Action) :
    Tracks s session past (g.run past) := by
  induction past using List.reverseRecOn with
  | nil => exact h
  | append_singleton past a ih =>
    rw [Gate.run, List.foldl_append]
    exact ih.act a

end Run

/-! ## Admission -/

/-- A gate is assembled from its settings after their repair, with the zone and the log that these
name. -/
theorem parts_of_ofSettings {zones : ZoneTable} {s : Settings} {calendar : CalendarProvider}
    {start : Instant} {g : Gate} (h : ofSettings zones s calendar start = .ok g) :
    ∃ zone log, s.repair.zone zones = .ok zone ∧ logOf s.repair.diagnostics = .ok log ∧
      g = assemble s.repair zone log calendar start := by
  rw [ofSettings, Settings.validate_eq] at h
  cases hcheck : s.check zones with
  | error e => simp [hcheck, GateError.ofSettings, bind, Except.bind, Except.map] at h
  | ok _ =>
    cases hzone : s.repair.zone zones with
    | error e =>
      simp [hcheck, hzone, GateError.ofSettings, bind, Except.bind, Except.map] at h
    | ok zone =>
      cases hlog : logOf s.repair.diagnostics with
      | error fault =>
        simp [hcheck, hzone, hlog, GateError.ofSettings, GateError.ofFault, bind, Except.bind,
          Except.map] at h
      | ok log =>
        simp only [hcheck, hzone, hlog, GateError.ofSettings, GateError.ofFault, bind, Except.bind,
          pure, Except.pure, Except.map, Except.ok.injEq] at h
        exact ⟨zone, log, rfl, rfl, h.symm⟩

theorem eq_assemble_of_ofSettings {zones : ZoneTable} {s : Settings} {calendar : CalendarProvider}
    {start : Instant} {g : Gate} (h : ofSettings zones s calendar start = .ok g) :
    ∃ zone log, g = assemble s.repair zone log calendar start := by
  obtain ⟨zone, log, -, -, hg⟩ := parts_of_ofSettings h
  exact ⟨zone, log, hg⟩

/-- What a gate starts with. -/
theorem tracks_ofSettings {zones : ZoneTable} {s : Settings} {calendar : CalendarProvider}
    {start : Instant} {g : Gate} (h : ofSettings zones s calendar start = .ok g) :
    ∃ zone, Tracks s.repair ⟨calendar, zone⟩ [] g := by
  obtain ⟨zone, log, rfl⟩ := eq_assemble_of_ofSettings h
  exact ⟨zone, tracks_assemble s.repair zone log calendar start⟩

/-- The conditions of an entry for a gate with a past. -/
structure Admissible (s : Settings) (calendar : CalendarProvider) (past : List Action) (g : Gate)
    (r : EntryRequest) : Prop where
  symbol : r.symbol ≠ ""
  side : r.side ≠ .flat
  enabled : enabledAfter past = true
  manual : lockedAfter past = false
  lockout : ¬∃ t, g.lockout.phase = .lockedOut t ∧ g.now < t
  caps : s.caps.evaluate (snapshotAfter past) = .ok .allow
  losses : ∀ n, s.lockout.maxConsecutiveLosses = some n → lossesAfter past < max n 1
  session : calendar.OpenAt r.symbol r.now
  quantity : 0 < (s.tiers.forMode s.riskMode).bounded (s.sizing.quantity r.symbol s.riskMode)
  price : r.kind.isPriceBased = true → .zero < r.price
  stop : ∃ entry stop, Planner.entryPrice r = .ok entry ∧ r.stop entry = .ok stop ∧
    r.Protects entry stop

/-- The guard lets an entry pass as long as there are fewer losses than its limit.  The limit is a
count, so it is reached before the guard stops counting. -/
theorem Tracks.guard_iff {s : Settings} {session : SessionGate} {past : List Action} {g : Gate}
    (h : Tracks s session past g)
    (hcount : ∀ n, s.lockout.maxConsecutiveLosses = some n → n ≤ Count.max) :
    (∀ guard ∈ g.lossGuard, guard.isBlocked = false) ↔
      ∀ n, s.lockout.maxConsecutiveLosses = some n → lossesAfter past < max n 1 := by
  rw [h.lossGuard]
  cases hlimit : s.lockout.maxConsecutiveLosses with
  | none => simp
  | some n =>
    have hn : n ≤ Count.max := hcount n hlimit
    have hpos : 1 ≤ Count.max := by decide
    simp only [Option.map_some, Option.mem_some_iff, forall_eq', LossGuard.isBlocked,
      decide_eq_false_iff_not, Option.some.injEq]
    omega

theorem accepted_planner_iff {s : Settings} {calendar : CalendarProvider} {zone : Zone}
    {past : List Action} {g : Gate} (h : Tracks s.repair ⟨calendar, zone⟩ past g)
    (hcount : ∀ n, s.lockout.maxConsecutiveLosses = some n → n ≤ Count.max) (oco : String)
    (r : EntryRequest) :
    (g.planner.build oco r g).Accepted ↔ Admissible s calendar past g r := by
  rw [Planner.accepted_build_iff]
  -- the repair of settings concerns neither the mode nor the caps, tiers and quantities
  have hmode : g.planner.mode = s.repair.riskMode := congrArg Settings.riskMode h.settings
  have hcaps : g.settings.caps = s.repair.caps := congrArg Settings.caps h.settings
  have hsession : g.planner.session.calendar = calendar := congrArg SessionGate.calendar h.session
  have hquantity : (g.planner.sizer.decide r.intent g.planner.mode).quantity =
      (s.tiers.forMode s.riskMode).bounded (s.sizing.quantity r.symbol s.riskMode) := by
    have hsizer : g.planner.sizer.decide = (sizingOf s.repair).decide :=
      congrArg SizingChain.decide h.sizing
    rw [hsizer, hmode]
    exact quantity_sizingOf s.repair r.intent s.riskMode
  have hrisk : r.symbol ≠ "" → ((g.planner.risk g r.intent).2 = .ok none ↔
      enabledAfter past = true ∧ lockedAfter past = false ∧
        (¬∃ t, g.lockout.phase = .lockedOut t ∧ g.now < t) ∧
        s.caps.evaluate (snapshotAfter past) = .ok .allow ∧
        ∀ n, s.lockout.maxConsecutiveLosses = some n → lossesAfter past < max n 1) := by
    intro hsymbol
    have hevaluate : (g.evaluate r.intent).2 = .ok none ↔ _ := evaluate_eq_none_iff hsymbol
    rw [h.enabled, h.manual, h.snapshot, hcaps, h.guard_iff hcount] at hevaluate
    exact hevaluate
  rw [SessionGate.blocking?_eq_none_iff, hsession, hquantity]
  simp only [Planner.Priced, stopPrice_planner]
  constructor
  · rintro ⟨hsymbol, hside, hpass, hopen, hpos, hprice, hstop⟩
    obtain ⟨henabled, hmanual, hlockout, hallow, hlosses⟩ := (hrisk hsymbol).1 hpass
    exact ⟨hsymbol, hside, henabled, hmanual, hlockout, hallow, hlosses, hopen, hpos, hprice, hstop⟩
  · intro hadm
    exact ⟨hadm.symbol, hadm.side,
      (hrisk hadm.symbol).2 ⟨hadm.enabled, hadm.manual, hadm.lockout, hadm.caps, hadm.losses⟩,
      hadm.session, hadm.quantity, hadm.price, hadm.stop⟩

/-- After any history, an answer to a request is an acceptance exactly if the conditions of an entry
are met; and if they are met, there is an answer. -/
theorem accepted_iff_admissible {zones : ZoneTable} {s : Settings} {calendar : CalendarProvider}
    {start : Instant} {g : Gate} (hg : ofSettings zones s calendar start = .ok g)
    (hcount : ∀ n, s.lockout.maxConsecutiveLosses = some n → n ≤ Count.max)
    (past : List Action) (oco : String) (r : EntryRequest) :
    (∀ plan, ((g.run past).plan oco r).2 = .ok plan →
        (plan.accepted = true ↔ Admissible s calendar past (g.run past) r)) ∧
      (Admissible s calendar past (g.run past) r →
        ∃ plan, ((g.run past).plan oco r).2 = .ok plan ∧ plan.accepted = true) := by
  obtain ⟨zone, hstart⟩ := tracks_ofSettings hg
  have hiff := accepted_planner_iff (hstart.run past) hcount oco r
  refine ⟨?_, hiff.2⟩
  intro plan hplan
  rw [← hiff]
  constructor
  · intro haccepted
    exact ⟨plan, hplan, haccepted⟩
  · rintro ⟨other, hother, haccepted⟩
    have hsame : plan = other := Except.ok.inj (hplan.symm.trans hother)
    rw [hsame]
    exact haccepted

/-- Two losses lock a gate out for a quarter of an hour, during which its switch is put off and on
again.  After that time an order at 10:00 is accepted: the window of the day begins at 16:00, and
the guard allows for a third loss. -/
theorem admissible_after_cooldown :
    let s : Settings := { Settings.defaults with lockout := ⟨2, 15, some 3⟩ }
    let calendar : CalendarProvider := fun _ _ => some ⟨some "16:00-17:00", []⟩
    let start : Instant := ⟨1756821600, 0, by decide, by decide, by decide⟩
    let past : List Action :=
      [.outcome false, .outcome false, .enable false, .enable true, .advance (.ofMinutes 15)]
    let r : EntryRequest :=
      ⟨⟨⟨2025, 9, 2⟩, ⟨36000, 0, by decide, by decide⟩⟩, "ES", .long, .limit,
        .whole false 5000 (by decide), .defaults, .quarter⟩
    ∃ g, ofSettings .exchanges s calendar start = .ok g ∧
      Admissible s calendar past (g.run past) r := by
  intro s calendar start past r
  let g := assemble s.repair Zone.newYork (some ⟨.ofTags [], .new EventLog.defaultCapacity⟩)
    calendar start
  have hg : ofSettings .exchanges s calendar start = .ok g := rfl
  have hcount : ∀ n, s.lockout.maxConsecutiveLosses = some n → n ≤ Count.max := by
    intro n hn
    cases hn
    decide
  have haccepted : (((g.run past).plan "oco" r).2.toOption.any fun plan => plan.accepted) = true := by
    decide +kernel
  refine ⟨g, hg, ?_⟩
  cases hplan : ((g.run past).plan "oco" r).2 with
  | error fault =>
    rw [hplan] at haccepted
    cases haccepted
  | ok plan =>
    rw [hplan] at haccepted
    exact ((accepted_iff_admissible hg hcount past "oco" r).1 plan hplan).1 haccepted

end Gate
end EntryGate
