import EntryGate.Proofs.PlanningFootprint

/-!
# Outcomes reach every rule

Questions stop at switches and at refusals, outcomes do not: every leaf of a tree is told every
outcome, whatever the switches before it say and whatever the other rules answer.

For a gate this ties its two counts of losses together.  The guard forgets losses after a win only,
the lockout also when a question lifts it, so that the lockout never counts more than the guard.

* `Rule.Told` is a tree in which every leaf has been told an outcome;
* `Gate.Step` is anything that can be done with a gate, the two questions to its rules included, and
  `Gate.runSteps` a history of steps;
* `Gate.Counted` bounds the count of the lockout by the losses of a history.  `Gate.Counted.act` and
  `Gate.Counted.ask` are the steps of it, and `Gate.Counted.runSteps` the history as a whole;
* `Gate.no_outcome_lost` is the result for trees and for gates.
-/

namespace EntryGate

/-! ## Trees -/

namespace Rule

/-- A tree in which every leaf has been told an outcome by itself, and nothing else has changed. -/
structure Told (now : Instant) (win : Bool) (r r' : Rule) : Prop where
  lockout : ∀ path l, r.at? path = some (.lockout l) →
    r'.at? path = some (.lockout (l.record now win))
  guard : ∀ path g, r.at? path = some (.guard g) → r'.at? path = some (.guard (g.record win))
  caps : ∀ path c, r.at? path = some (.caps c) → r'.at? path = some (.caps c)
  switch : ∀ path flags inner, r.at? path = some (.switch flags inner) →
    ∃ inner', r'.at? path = some (.switch flags inner')
  /-- No rule has been added, taken away or moved, and none has new terms. -/
  form : r'.renewed = r.renewed

theorem recordAll_eq_map (now : Instant) (win : Bool) (rules : List Rule) :
    recordAll now win rules = rules.map (record now win) := by
  induction rules with
  | nil => rfl
  | cons r rs ih => rw [recordAll, ih, List.map_cons]

/-- What a tree is told, the rule at each place is told. -/
theorem at?_record (now : Instant) (win : Bool) (path : List Nat) (r : Rule) :
    (r.record now win).at? path = (r.at? path).map (record now win) := by
  induction path generalizing r with
  | nil => rfl
  | cons n path ih =>
    cases r with
    | lockout l => rfl
    | caps c => rfl
    | guard g => rfl
    | switch flags inner => exact ih inner
    | chain mode rules =>
      -- the member of the chain at the next number of the path
      rw [record, at?, at?, recordAll_eq_map, List.getElem?_map]
      cases rules[n]? with
      | none => rfl
      | some r => exact ih r

theorem told_record (now : Instant) (win : Bool) (r : Rule) : Told now win r (r.record now win) where
  lockout path l h := by rw [at?_record, h]; rfl
  guard path g h := by rw [at?_record, h]; rfl
  caps path c h := by rw [at?_record, h]; rfl
  switch path flags inner h := by
    rw [at?_record, h]
    exact ⟨inner.record now win, rfl⟩
  form := renewed_record now win r

end Rule

/-! ## Counts -/

namespace Lockout

theorem streak_refresh_le (l : Lockout) (now : Instant) : (l.refresh now).streak ≤ l.streak := by
  rw [refresh]
  split
  · split
    · exact Nat.zero_le _
    · exact Nat.le_refl _
  · exact Nat.le_refl _

theorem streak_record (l : Lockout) (now : Instant) (win : Bool) :
    (l.record now win).streak = if win then 0 else nextStreak l.streak := by
  cases win with
  | true => rfl
  | false => exact l.streak_recordLoss now

end Lockout

namespace Gate

/-! ## Steps -/

/-- What can be done with a gate: an action, or one of the two questions to its rules. -/
inductive Step where
  | act (a : Action)
  | poll
  | evaluate (intent : PositionIntent)

namespace Step

def action? : Step → Option Action
  | .act a => some a
  | _ => none

end Step

/-- The gate after a step. -/
def step (g : Gate) : Step → Gate
  | .act a => g.act a
  | .poll => g.poll.1
  | .evaluate intent => (g.evaluate intent).1

/-- The gate after a history of steps. -/
def runSteps (g : Gate) (steps : List Step) : Gate :=
  steps.foldl step g

/-- The number of losses since the last win among the steps. -/
def lossesIn (steps : List Step) : Nat :=
  lossesAfter (steps.filterMap Step.action?)

/-- The rules after a poll: only the lockout can change, whether or not the caps meet a fault. -/
theorem pollAll_rules (g : Gate) :
    (Rule.pollAll g.now g.rules).1 =
      .lockout (g.lockout.refresh g.now) :: .caps ⟨g.settings.caps, g.snapshot⟩ ::
        (g.lossGuard.map Rule.guard).toList := by
  have hlockout : (g.lockout.poll g.now).1 = g.lockout.refresh g.now := rfl
  rw [rules]
  cases hdecision : CapsRule.decision ⟨g.settings.caps, g.snapshot⟩ with
  | error fault => simp [Rule.pollAll, Rule.poll, hdecision, hlockout, Except.map]
  | ok d =>
    cases g.lossGuard with
    | none => simp [Rule.pollAll, Rule.poll, hdecision, hlockout, Except.map]
    | some guard => simp [Rule.pollAll, Rule.poll, hdecision, hlockout, Except.map]

/-- Polling changes the lockout at most, and only if the switch lets the question through. -/
theorem poll_fst (g : Gate) :
    g.poll.1 =
      if g.switch.isBlocked then g else { g with lockout := g.lockout.refresh g.now } := by
  rw [poll, rule, Rule.poll]
  cases g.switch.isBlocked with
  | true =>
    exact g.withRule_switch g.switch g.settings.riskMode g.lockout ⟨g.settings.caps, g.snapshot⟩
      g.lossGuard
  | false =>
    simp only [Rule.poll, pollAll_rules]
    exact g.withRule_switch g.switch _ _ _ g.lossGuard

/-- A question to the rules changes the lockout at most, and does not add to its count. -/
theorem step_of_question (g : Gate) {e : Step} (h : e.action? = none) :
    ∃ l, g.step e = { g with lockout := l } ∧ l.streak ≤ g.lockout.streak := by
  cases e with
  | act a => cases h
  | poll =>
    rw [step, poll_fst]
    split
    · exact ⟨g.lockout, rfl, Nat.le_refl _⟩
    · exact ⟨_, rfl, g.lockout.streak_refresh_le g.now⟩
  | evaluate intent =>
    rw [step, evaluate_fst]
    split
    · exact ⟨g.lockout, rfl, Nat.le_refl _⟩
    · refine ⟨_, rfl, ?_⟩
      rw [Lockout.evaluate_fst]
      split
      · exact Nat.le_refl _
      · exact g.lockout.streak_refresh_le g.now

/-- An action adds to the count of the lockout only if it is a loss, and a win clears it. -/
theorem streak_act_le (g : Gate) (a : Action) :
    (g.act a).lockout.streak ≤
      (a.outcome?.map fun win => if win then 0 else Lockout.nextStreak g.lockout.streak).getD
        g.lockout.streak := by
  cases a with
  | plan oco r =>
    obtain ⟨log, hplan⟩ := g.plan_fst_eq oco r
    rw [act, hplan, lockoutAfter]
    split
    · exact g.lockout.streak_refresh_le g.now
    · exact Nat.le_refl _
  | outcome win =>
    rw [act, record_eq]
    exact Nat.le_of_eq (g.lockout.streak_record g.now win)
  | advance span =>
    rw [act, advance]
    split <;> exact Nat.le_refl _
  | snapshot s => exact Nat.le_refl _
  | enable enabled => exact Nat.le_refl _
  | manualLockout locked => exact Nat.le_refl _
  | forceLockout => exact Nat.le_refl _
  | setClock now => exact Nat.le_refl _

/-! ## Histories -/

/-- A gate with a past, whose lockout counts no more than the losses since the last win. -/
structure Counted (s : Settings) (session : SessionGate) (past : List Action) (g : Gate) : Prop where
  tracks : Tracks s session past g
  streak : g.lockout.streak ≤ min (lossesAfter past) Count.max

section Histories

variable {s : Settings} {session : SessionGate} {past : List Action} {g : Gate}

theorem Counted.act (h : Counted s session past g) (a : Action) :
    Counted s session (past ++ [a]) (g.act a) := by
  refine ⟨h.tracks.act a, ?_⟩
  have hstreak := h.streak
  have hact := g.streak_act_le a
  rw [lossesAfter_append]
  cases houtcome : a.outcome? with
  | none =>
    rw [houtcome] at hact
    exact Nat.le_trans hact hstreak
  | some win =>
    rw [houtcome] at hact
    cases win with
    | true => exact Nat.le_trans hact (Nat.zero_le _)
    | false =>
      -- one more loss on both sides, and the same cap
      calc
        (g.act a).lockout.streak ≤ Lockout.nextStreak g.lockout.streak := hact
        _ ≤ Lockout.nextStreak (min (lossesAfter past) Count.max) := by
              rw [Lockout.nextStreak, Lockout.nextStreak]
              omega
        _ = min (lossesAfter past + 1) Count.max := Lockout.nextStreak_min (lossesAfter past)

/-- A question adds nothing to the past. -/
theorem Counted.ask (h : Counted s session past g) {e : Step} (he : e.action? = none) :
    Counted s session past (g.step e) := by
  obtain ⟨l, hstep, hstreak⟩ := g.step_of_question he
  rw [hstep]
  refine ⟨?_, Nat.le_trans hstreak h.streak⟩
  exact ⟨h.tracks.settings, h.tracks.session, h.tracks.sizing, h.tracks.enabled, h.tracks.manual,
    h.tracks.snapshot, h.tracks.lossGuard⟩

theorem Counted.runSteps (h : Counted s session [] g) (steps : List Step) :
    Counted s session (steps.filterMap Step.action?) (g.runSteps steps) := by
  induction steps using List.reverseRecOn with
  | nil => exact h
  | append_singleton steps e ih =>
    rw [Gate.runSteps, List.foldl_append, List.filterMap_append]
    cases haction : e.action? with
    | none =>
      -- a question leaves no entry in the past
      simp only [List.filterMap_cons_none haction, List.filterMap_nil, List.append_nil]
      exact ih.ask haction
    | some a =>
      have he : e = .act a := by
        cases e with
        | act b => exact congrArg Step.act (Option.some.inj haction)
        | poll => cases haction
        | evaluate intent => cases haction
      rw [he]
      exact ih.act a

end Histories

/-- A new gate has counted nothing. -/
theorem counted_ofSettings {zones : ZoneTable} {s : Settings} {calendar : CalendarProvider}
    {start : Instant} {g : Gate} (h : ofSettings zones s calendar start = .ok g) :
    ∃ zone, Counted s.repair ⟨calendar, zone⟩ [] g := by
  obtain ⟨zone, log, rfl⟩ := eq_assemble_of_ofSettings h
  exact ⟨zone, tracks_assemble s.repair zone log calendar start, Nat.zero_le _⟩

/-- An outcome told to a tree changes each of its leaves as if it were told to that leaf alone.  In a
gate with a limit on consecutive losses, the count of the guard is therefore the number of losses
since the last win, and the lockout never counts more. -/
theorem no_outcome_lost :
    (∀ (now : Instant) (win : Bool) (r : Rule), Rule.Told now win r (r.record now win)) ∧
      ∀ (zones : ZoneTable) (s : Settings) (calendar : CalendarProvider) (start : Instant)
        (g : Gate) (limit : Nat),
        ofSettings zones s calendar start = .ok g → s.lockout.maxConsecutiveLosses = some limit →
        ∀ steps : List Step, ∃ guard, (g.runSteps steps).lossGuard = some guard ∧
          guard.streak = min (lossesIn steps) Count.max ∧
          (g.runSteps steps).lockout.streak ≤ guard.streak := by
  refine ⟨Rule.told_record, ?_⟩
  intro zones s calendar start g limit hg hlimit steps
  obtain ⟨zone, hstart⟩ := counted_ofSettings hg
  obtain ⟨htracks, hstreak⟩ := hstart.runSteps steps
  have hguard := htracks.lossGuard
  rw [show s.repair.lockout.maxConsecutiveLosses = some limit from hlimit] at hguard
  exact ⟨_, hguard, rfl, hstreak⟩

/-- The second leaf behind a switch that is off is told a loss.  In a gate, a loss while the switch is
off counts as well; after a poll has lifted the lockout, the next loss is its first one, and the
fourth one of the guard. -/
theorem no_outcome_lost_of_four_losses :
    let start : Instant := ⟨1756821600, 0, by decide, by decide, by decide⟩
    let lockout := Lockout.new .standard 1 (.ofMinutes 15)
    let r : Rule := .switch ⟨false, false⟩
      (.chain .standard [.guard (.new 1 "one loss"), .lockout lockout])
    let s : Settings := { Settings.defaults with lockout := ⟨2, 15, some 5⟩ }
    let steps : List Step :=
      [ .act (.outcome false), .act (.outcome false), .act (.enable false), .act (.outcome false),
        .act (.enable true), .act (.advance (.ofMinutes 15)), .poll, .act (.outcome false) ]
    r.at? [0, 1] = some (.lockout lockout) ∧
      (r.record start false).at? [0, 1] = some (.lockout (lockout.record start false)) ∧
      s.lockout.maxConsecutiveLosses = some 5 ∧
      ∃ g guard, ofSettings .exchanges s .none start = .ok g ∧
        (g.runSteps steps).lossGuard = some guard ∧
        guard.streak = 4 ∧ (g.runSteps steps).lockout.streak = 1 ∧
        (g.runSteps steps).lockout.streak ≤ guard.streak := by
  intro start lockout r s steps
  let g := assemble s.repair Zone.newYork (some ⟨.ofTags [], .new EventLog.defaultCapacity⟩) .none
    start
  have hg : ofSettings .exchanges s .none start = .ok g := rfl
  have hleaf : r.at? [0, 1] = some (.lockout lockout) := rfl
  have hlosses : min (lossesIn steps) Count.max = 4 := by decide
  have hstreak : (g.runSteps steps).lockout.streak = 1 := by decide +kernel
  obtain ⟨htold, hcounts⟩ := no_outcome_lost
  obtain ⟨guard, hguard, hcount, hle⟩ := hcounts .exchanges s .none start g 5 hg rfl steps
  rw [hlosses] at hcount
  exact ⟨hleaf, (htold start false r).lockout _ _ hleaf, rfl, g, guard, hg, hguard, hcount, hstreak,
    hle⟩

end Gate
end EntryGate
