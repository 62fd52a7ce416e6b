import EntryGate.Proofs.GateHistory
import EntryGate.Proofs.LockoutPhases

/-!
# Validation of settings

Validation refuses settings or repairs them, and never does half of either.  Settings that are refused
stay as they are, and the error is that of the first objection to them.  Settings that are accepted lose
nothing but a threshold, a cooldown or a capacity out of range, and validation has nothing to do
with the result.  The lockout of a gate repairs its own threshold and cooldown once more, in another
unit of time and with a substitute for a cooldown that is too long for a span; none of that happens
after validation.

* `Settings.Objection` lists what can be objected to, with the errors, and
  `Settings.check_eq_objection` shows that the check raises the first objection that applies;
* `Settings.Repaired` compares settings with those after a repair;
* `Gate.lockout_of_ofSettings` gives the lockout of a gate from the settings of the gate;
* `Settings.revise_refuses_or_repairs` is the result.
-/

namespace EntryGate
namespace Settings

/-! ## Objections -/

/-- What can be wrong with settings beyond repair. -/
inductive Objection where
  | timezone
  | dailyLimit
  | weeklyLimit
  | drawdownLimit
  | stopDistance
deriving DecidableEq

namespace Objection

/-- All objections, in the order in which they are raised. -/
def all : List Objection := [.timezone, .dailyLimit, .weeklyLimit, .drawdownLimit, .stopDistance]

/-- Whether an objection to settings is right. -/
def applies (zones : ZoneTable) (s : Settings) : Objection → Bool
  | .timezone => (zones s.timezone).isNone
  | .dailyLimit => s.caps.dailyLossLimit < .zero
  | .weeklyLimit => s.caps.weeklyLossLimit < .zero
  | .drawdownLimit => s.caps.trailingDrawdown < .zero
  | .stopDistance => s.trailing.param1 < .zero

def error (s : Settings) : Objection → SettingsError
  | .timezone => .unknownTimezone s.timezone
  | .dailyLimit =>
    .invalid "caps.daily_loss_limit"
      (s.caps.dailyLossLimit.render ++ " is negative; use 0 for uncapped")
  | .weeklyLimit =>
    .invalid "caps.weekly_loss_limit"
      (s.caps.weeklyLossLimit.render ++ " is negative; use 0 for uncapped")
  | .drawdownLimit =>
    .invalid "caps.trailing_drawdown"
      (s.caps.trailingDrawdown.render ++ " is negative; use 0 for uncapped")
  | .stopDistance => .invalid "trailing.param1" (s.trailing.param1.render ++ " is negative")

/-- The first objection that is right. -/
def first? (zones : ZoneTable) (s : Settings) : Option Objection :=
  all.find? (applies zones s)

end Objection

theorem check_eq_objection (zones : ZoneTable) (s : Settings) :
    s.check zones =
      match Objection.first? zones s with
      | some o => .error (o.error s)
      | none => .ok () := by
  rw [check, zone, Objection.first?, Objection.all]
  -- one step of the check for each objection, and the end of it at the first one that is right
  cases hzone : zones s.timezone with
  | none => simp [Objection.applies, Objection.error, hzone, bind, Except.bind]
  | some z =>
    by_cases hdaily : s.caps.dailyLossLimit < .zero
    · simp [Objection.applies, Objection.error, checkLimit, hzone, hdaily, bind, Except.bind]
    by_cases hweekly : s.caps.weeklyLossLimit < .zero
    · simp [Objection.applies, Objection.error, checkLimit, hzone, hdaily, hweekly, bind,
        Except.bind]
    by_cases hdrawdown : s.caps.trailingDrawdown < .zero
    · simp [Objection.applies, Objection.error, checkLimit, hzone, hdaily, hweekly, hdrawdown, bind,
        Except.bind]
    by_cases hdistance : s.trailing.param1 < .zero
    · simp [Objection.applies, Objection.error, checkLimit, hzone, hdaily, hweekly, hdrawdown,
        hdistance, bind, Except.bind]
    · simp [Objection.applies, checkLimit, hzone, hdaily, hweekly, hdrawdown, hdistance, bind,
        Except.bind]

/-- The repair of settings concerns nothing that is objected to. -/
theorem first?_repair (zones : ZoneTable) (s : Settings) :
    Objection.first? zones s.repair = Objection.first? zones s := by
  have happlies : Objection.applies zones s.repair = Objection.applies zones s := by
    funext o
    cases o <;> rfl
  rw [Objection.first?, Objection.first?, happlies]

/-! ## Repair -/

/-- The second settings are the first ones with three values in range, each of them the same as before
if it was in range already. -/
structure Repaired (s s' : Settings) : Prop where
  others : s' =
    { s with
      lockout := { s.lockout with
        lossStreakThreshold := s'.lockout.lossStreakThreshold
        cooldownMinutes := s'.lockout.cooldownMinutes }
      diagnostics := { s.diagnostics with capacity := s'.diagnostics.capacity } }
  threshold : 1 ≤ s'.lockout.lossStreakThreshold
  threshold_kept : 1 ≤ s.lockout.lossStreakThreshold →
    s'.lockout.lossStreakThreshold = s.lockout.lossStreakThreshold
  minutes : 1 ≤ s'.lockout.cooldownMinutes ∧ s'.lockout.cooldownMinutes ≤ 10080
  minutes_kept : 1 ≤ s.lockout.cooldownMinutes → s.lockout.cooldownMinutes ≤ 10080 →
    s'.lockout.cooldownMinutes = s.lockout.cooldownMinutes
  capacity : 1 ≤ s'.diagnostics.capacity
  capacity_kept : 1 ≤ s.diagnostics.capacity → s'.diagnostics.capacity = s.diagnostics.capacity

theorem repairMinutes_bounds (minutes : Int) :
    1 ≤ repairMinutes minutes ∧ repairMinutes minutes ≤ 10080 := by
  rw [repairMinutes, Lockout.defaultCooldownMinutes, Lockout.maxCooldownMinutes]
  split <;> omega

theorem repairMinutes_of_bounds {minutes : Int} (hpos : 1 ≤ minutes) (hle : minutes ≤ 10080) :
    repairMinutes minutes = minutes := by
  rw [repairMinutes, Lockout.maxCooldownMinutes]
  omega

theorem repairThreshold_of_pos {threshold : Nat} (h : 1 ≤ threshold) :
    Lockout.repairThreshold threshold = threshold :=
  if_neg (Nat.ne_of_gt h)

theorem repaired_repair (s : Settings) : Repaired s s.repair where
  others := rfl
  threshold := Lockout.one_le_repairThreshold _
  threshold_kept := repairThreshold_of_pos
  minutes := repairMinutes_bounds _
  minutes_kept := repairMinutes_of_bounds
  capacity := by
    show 1 ≤ if s.diagnostics.capacity = 0 then 1 else s.diagnostics.capacity
    split <;> omega
  capacity_kept hpos := if_neg (Nat.ne_of_gt hpos)

/-- Settings in range are not repaired. -/
theorem Repaired.repair_eq {s s' : Settings} (h : Repaired s s') : s'.repair = s' := by
  have hrepair := repaired_repair s'
  rw [hrepair.others, hrepair.threshold_kept h.threshold,
    hrepair.minutes_kept h.minutes.1 h.minutes.2, hrepair.capacity_kept h.capacity]

end Settings

/-! ## The lockout of a gate -/

/-- No more than a week fits into a span, and the lockout keeps what is positive and at most that. -/
theorem Gate.cooldownOf_of_bounds {s : LockoutSettings} (hpos : 1 ≤ s.cooldownMinutes)
    (hle : s.cooldownMinutes ≤ 10080) :
    Span.ofMinutes? s.cooldownMinutes = some (.ofMinutes s.cooldownMinutes) ∧
      Lockout.repairCooldown (Gate.cooldownOf s) = .ofMinutes s.cooldownMinutes := by
  have hspan : Span.ofMinutes? s.cooldownMinutes = some (.ofMinutes s.cooldownMinutes) := by
    rw [Span.ofMinutes?, Span.maxMillis]
    exact if_pos (by omega)
  refine ⟨hspan, ?_⟩
  rw [Gate.cooldownOf, hspan, Option.getD_some, Lockout.repairCooldown]
  have hnonpos : ¬Span.ofMinutes s.cooldownMinutes ≤ ⟨0⟩ := by
    show ¬s.cooldownMinutes * 60000000000 ≤ 0
    omega
  have hlong : ¬Span.ofMinutes Lockout.maxCooldownMinutes < .ofMinutes s.cooldownMinutes := by
    show ¬(10080 : Int) * 60000000000 < s.cooldownMinutes * 60000000000
    omega
  rw [if_neg hnonpos, if_neg hlong]

/-- The lockout of a gate starts with the threshold and the cooldown of the gate's settings. -/
theorem Gate.lockout_of_ofSettings {zones : ZoneTable} {s : Settings} {calendar : CalendarProvider}
    {now : Instant} {g : Gate} (h : Gate.ofSettings zones s calendar now = .ok g) :
    g.settings = s.repair ∧
      g.lockout = ⟨g.settings.riskMode, g.settings.lockout.lossStreakThreshold,
        .ofMinutes g.settings.lockout.cooldownMinutes, 0, .clear⟩ := by
  rcases eq_assemble_of_ofSettings h with ⟨zone, log, rfl⟩
  refine ⟨rfl, ?_⟩
  have hrepair := s.repaired_repair
  show Lockout.new _ _ _ = _
  rw [Lockout.new, Settings.repairThreshold_of_pos hrepair.threshold,
    (cooldownOf_of_bounds hrepair.minutes.1 hrepair.minutes.2).2]
  rfl

namespace Settings

variable {zones : ZoneTable}

theorem revise_of_objection {s : Settings} {o : Objection}
    (h : Objection.first? zones s = some o) : (revise zones).run s = .error (o.error s) s := by
  rw [revise_run, check_eq_objection, h]

theorem revise_of_no_objection {s : Settings} (h : Objection.first? zones s = none) :
    (revise zones).run s = .ok () s.repair := by
  rw [revise_run, check_eq_objection, h]

/-- Settings of a gate have been accepted. -/
theorem first?_of_ofSettings {s : Settings} {calendar : CalendarProvider} {now : Instant} {g : Gate}
    (h : Gate.ofSettings zones s calendar now = .ok g) : Objection.first? zones s = none := by
  cases hfirst : Objection.first? zones s with
  | none => rfl
  | some o =>
    rw [Gate.ofSettings, validate_eq, check_eq_objection, hfirst] at h
    simp [GateError.ofSettings, bind, Except.bind, Except.map] at h

/-- The revision of settings either raises the first objection and leaves them as they are, or repairs
three of their values, and then it has nothing left to do.  The lockout of a gate takes its threshold
and its cooldown from the settings after their revision, as they are. -/
theorem revise_refuses_or_repairs (zones : ZoneTable) (s : Settings) :
    (∀ o, Objection.first? zones s = some o → (revise zones).run s = .error (o.error s) s) ∧
      (Objection.first? zones s = none →
        ∃ s', (revise zones).run s = .ok () s' ∧ Repaired s s' ∧
          (revise zones).run s' = .ok () s') ∧
      ∀ calendar now g, Gate.ofSettings zones s calendar now = .ok g →
        (revise zones).run s = .ok () g.settings ∧
          g.lockout.threshold = g.settings.lockout.lossStreakThreshold ∧
          Span.ofMinutes? g.settings.lockout.cooldownMinutes = some g.lockout.cooldown := by
  refine ⟨fun o => revise_of_objection, ?_, ?_⟩
  · intro hnone
    refine ⟨s.repair, revise_of_no_objection hnone, s.repaired_repair, ?_⟩
    have hnone' : Objection.first? zones s.repair = none := by
      rw [first?_repair, hnone]
    rw [revise_of_no_objection hnone', s.repaired_repair.repair_eq]
  · intro calendar now g h
    rcases Gate.lockout_of_ofSettings h with ⟨hsettings, hlockout⟩
    have hminutes := s.repaired_repair.minutes
    rw [hlockout, hsettings]
    exact ⟨revise_of_no_objection (first?_of_ofSettings h), rfl,
      (Gate.cooldownOf_of_bounds hminutes.1 hminutes.2).1⟩

/-- Settings with a threshold and a capacity of zero and the greatest cooldown that fits into 64 bits,
which is too long for a span: a gate locks out after one loss, for a week.  With two limits and a
distance below zero as well, the weekly limit is the one that the error is about. -/
theorem revise_refuses_or_repairs_of_extremes :
    let s : Settings :=
      { defaults with
        lockout := ⟨0, 9223372036854775807, none⟩
        diagnostics := ⟨true, 0, []⟩ }
    let below : Decimal := .whole true 5 (by decide)
    let refused : Settings :=
      { s with
        caps := ⟨0, .zero, below, below⟩
        trailing := { s.trailing with param1 := below } }
    let start : Instant := ⟨1756821600, 0, by decide, by decide, by decide⟩
    (revise .exchanges).run refused =
        .error (.invalid "caps.weekly_loss_limit" "-5 is negative; use 0 for uncapped") refused ∧
      (∃ s', (revise .exchanges).run s = .ok () s' ∧ Repaired s s' ∧
        (revise .exchanges).run s' = .ok () s') ∧
      Span.ofMinutes? s.lockout.cooldownMinutes = none ∧
      ∃ g, Gate.ofSettings .exchanges s .none start = .ok g ∧
        (revise .exchanges).run s = .ok () g.settings ∧
        g.lockout.threshold = 1 ∧ g.lockout.cooldown = .ofMinutes 10080 := by
  intro s below refused start
  have hrefused : Objection.first? .exchanges refused = some .weeklyLimit := by decide
  have herror : Objection.error refused .weeklyLimit =
      .invalid "caps.weekly_loss_limit" "-5 is negative; use 0 for uncapped" := by decide
  have hfine : Objection.first? .exchanges s = none := by decide
  let g := Gate.assemble s.repair Zone.newYork (some ⟨.ofTags [], .new 1⟩) .none start
  have hg : Gate.ofSettings .exchanges s .none start = .ok g := rfl
  rcases revise_refuses_or_repairs .exchanges s with ⟨-, hrepairs, hgate⟩
  rcases hgate .none start g hg with ⟨hrevised, hthreshold, hcooldown⟩
  have hraised := (revise_refuses_or_repairs .exchanges refused).1 .weeklyLimit hrefused
  rw [herror] at hraised
  exact ⟨hraised, hrepairs hfine, by decide, g, hg, hrevised, hthreshold,
    (Option.some.inj hcooldown).symm⟩

end Settings

end EntryGate
