import EntryGate.Proofs.InstantOrder
import EntryGate.Risk.Lockout

/-!
# The state of a lockout as a function of its history

A lockout is told of wins and losses, forced and asked, while its clock is moved about.  Its state is
determined by what has happened, without looking at how it was reached:

* a *clearing poll* is a question asked while locked, at or after the expiry in force;
* a *trigger* is a forced lockout, or a loss with which the streak reaches the threshold;
* the streak is the number of losses since the later of the last win and the last clearing poll, and
  trading is locked out exactly if there is a trigger after the last clearing poll, until the
  cooldown has passed since the last of them.

`Chronicle` keeps the history and reads these figures off it; `Lockout.Watch` is a lockout with its
clock.  `Watch.explains_run` says that the two agree after every run.
-/

namespace EntryGate
namespace Lockout

/-! ## Runs -/

/-- What can happen to a lockout and to its clock. -/
inductive Action where
  | outcome (win : Bool)
  | force
  | poll
  | evaluate (intent : PositionIntent)
  | setClock (now : Instant)
  | advance (span : Span)

namespace Action

/-- The clock after an action; it does not move beyond the supported years. -/
def clock (now : Instant) : Action → Instant
  | .setClock t => t
  | .advance d => (now.add? d).getD now
  | _ => now

/-- Whether an action asks if trading is allowed.  Without a symbol the question is not reached. -/
def asks : Action → Bool
  | .poll => true
  | .evaluate intent => !intent.symbol.isEmpty
  | _ => false

end Action

/-- A lockout with its clock. -/
structure Watch where
  lockout : Lockout
  now : Instant

namespace Watch

/-- The lockout after an action. -/
def lockoutAfter (w : Watch) : Action → Lockout
  | .outcome win => w.lockout.record w.now win
  | .force => w.lockout.force w.now
  | .poll => (w.lockout.poll w.now).1
  | .evaluate intent => (w.lockout.evaluate w.now intent).1
  | .setClock _ => w.lockout
  | .advance _ => w.lockout

def act (w : Watch) (a : Action) : Watch :=
  ⟨w.lockoutAfter a, a.clock w.now⟩

def run (w : Watch) (actions : List Action) : Watch :=
  actions.foldl act w

/-- The expiry of the lockout, if trading is locked out. -/
def expiry? (w : Watch) : Option Instant :=
  w.lockout.phase.expiry?

end Watch

/-- Whether the clock never goes back. -/
def Forward : Instant → List Action → Prop
  | _, [] => True
  | now, a :: rest => now ≤ a.clock now ∧ Forward (a.clock now) rest

/-! ## Histories -/

/-- One entry of a history: an action, the time of it, and what was on record before it. -/
structure Moment where
  now : Instant
  action : Action
  losses : Nat
  expiry? : Option Instant

namespace Moment

def isWin (m : Moment) : Bool :=
  match m.action with
  | .outcome win => win
  | _ => false

def isLoss (m : Moment) : Bool :=
  match m.action with
  | .outcome win => !win
  | _ => false

/-- A question asked while locked, at or after the expiry. -/
def isClearing (m : Moment) : Bool :=
  m.action.asks && m.expiry?.any fun t => decide (t ≤ m.now)

/-- A forced lockout, or a loss with which the streak reaches the threshold. -/
def isTrigger (threshold : Nat) (m : Moment) : Bool :=
  match m.action with
  | .force => true
  | .outcome win => !win && decide (threshold ≤ min (m.losses + 1) Count.max)
  | _ => false

end Moment

/-- The phase that goes with an expiry, if there is one, and a number of losses. -/
def phaseOf : Option Instant → Nat → LockoutPhase
  | some t, _ => .lockedOut t
  | none, 0 => .clear
  | none, _ + 1 => .coolingDown

/-- The history of a lockout, the latest moment first, with the terms of the lockout. -/
structure Chronicle where
  threshold : Nat
  cooldown : Span
  now : Instant
  moments : List Moment

namespace Chronicle

/-- What has happened since the last clearing poll. -/
def sinceClearing (c : Chronicle) : List Moment :=
  c.moments.takeWhile fun m => !m.isClearing

/-- What has happened since the later of the last win and the last clearing poll. -/
def sinceReset (c : Chronicle) : List Moment :=
  c.moments.takeWhile fun m => !(m.isWin || m.isClearing)

def losses (c : Chronicle) : Nat :=
  c.sinceReset.countP Moment.isLoss

/-- The most recent trigger after the last clearing poll. -/
def trigger? (c : Chronicle) : Option Moment :=
  c.sinceClearing.find? (Moment.isTrigger c.threshold)

def expiry? (c : Chronicle) : Option Instant :=
  c.trigger?.map fun m => m.now.addCapped c.cooldown

/-- An action as the next moment. -/
def moment (c : Chronicle) (a : Action) : Moment :=
  ⟨c.now, a, c.losses, c.expiry?⟩

def note (c : Chronicle) (a : Action) : Chronicle :=
  { c with now := a.clock c.now, moments := c.moment a :: c.moments }

/-- The chronicle of a list of actions, of which the first one happened first. -/
def ofActions (threshold : Nat) (cooldown : Span) (start : Instant) (actions : List Action) :
    Chronicle :=
  actions.foldl note ⟨threshold, cooldown, start, []⟩

/-- The phase that a history leads to. -/
def phase (c : Chronicle) : LockoutPhase :=
  phaseOf c.expiry? c.losses

/-! ### One more moment -/

@[simp]
theorem threshold_note (c : Chronicle) (a : Action) : (c.note a).threshold = c.threshold := rfl

@[simp]
theorem cooldown_note (c : Chronicle) (a : Action) : (c.note a).cooldown = c.cooldown := rfl

@[simp]
theorem now_note (c : Chronicle) (a : Action) : (c.note a).now = a.clock c.now := rfl

/-- A history never changes the terms. -/
theorem terms_foldl (c : Chronicle) (actions : List Action) :
    (actions.foldl note c).threshold = c.threshold ∧
      (actions.foldl note c).cooldown = c.cooldown := by
  induction actions generalizing c with
  | nil => exact ⟨rfl, rfl⟩
  | cons a rest ih => exact ih (c.note a)

@[simp]
theorem threshold_ofActions (threshold : Nat) (cooldown : Span) (start : Instant)
    (actions : List Action) :
    (ofActions threshold cooldown start actions).threshold = threshold :=
  (terms_foldl _ actions).1

@[simp]
theorem cooldown_ofActions (threshold : Nat) (cooldown : Span) (start : Instant)
    (actions : List Action) :
    (ofActions threshold cooldown start actions).cooldown = cooldown :=
  (terms_foldl _ actions).2

theorem losses_note (c : Chronicle) (a : Action) :
    (c.note a).losses =
      if (c.moment a).isWin || (c.moment a).isClearing then 0
      else if (c.moment a).isLoss then c.losses + 1 else c.losses := by
  rw [losses, sinceReset, note, List.takeWhile_cons]
  by_cases hreset : ((c.moment a).isWin || (c.moment a).isClearing) = true
  · simp [hreset]
  · by_cases hloss : (c.moment a).isLoss = true
    · simp only [hreset, Bool.not_false, if_true, List.countP_cons, hloss]
      rfl
    · simp only [hreset, Bool.not_false, if_true, List.countP_cons, hloss]
      rfl

theorem trigger?_note (c : Chronicle) (a : Action) :
    (c.note a).trigger? =
      if (c.moment a).isClearing then none
      else if (c.moment a).isTrigger c.threshold then some (c.moment a) else c.trigger? := by
  rw [trigger?, sinceClearing, note, List.takeWhile_cons]
  by_cases hclear : (c.moment a).isClearing = true
  · simp [hclear]
  · by_cases htrigger : (c.moment a).isTrigger c.threshold = true
    · simp [hclear, htrigger]
    · simp [hclear, htrigger, trigger?, sinceClearing]

theorem expiry?_note (c : Chronicle) (a : Action) :
    (c.note a).expiry? =
      if (c.moment a).isClearing then none
      else if (c.moment a).isTrigger c.threshold then some (c.now.addCapped c.cooldown)
      else c.expiry? := by
  rw [expiry?, trigger?_note, cooldown_note]
  split
  · rfl
  · split <;> rfl

end Chronicle

/-! ## What each operation does to the phase -/

section Operations

variable {l : Lockout} {e : Option Instant} {n : Nat}

theorem expiry?_phaseOf (e : Option Instant) (n : Nat) : (phaseOf e n).expiry? = e := by
  cases e with
  | some t => rfl
  | none => cases n <;> rfl

theorem nextStreak_min (n : Nat) : nextStreak (min n Count.max) = min (n + 1) Count.max := by
  rw [nextStreak]
  omega

theorem phase_recordWin (h : l.phase = phaseOf e n) : l.recordWin.phase = phaseOf e 0 := by
  cases e with
  | some t => simp [recordWin, h, phaseOf]
  | none => cases n <;> simp [recordWin, h, phaseOf]

theorem threshold_recordLoss (l : Lockout) (now : Instant) :
    (l.recordLoss now).threshold = l.threshold := by
  rw [recordLoss]
  split
  · rfl
  · split <;> rfl

theorem cooldown_recordLoss (l : Lockout) (now : Instant) :
    (l.recordLoss now).cooldown = l.cooldown := by
  rw [recordLoss]
  split
  · rfl
  · split <;> rfl

theorem streak_recordLoss (l : Lockout) (now : Instant) :
    (l.recordLoss now).streak = nextStreak l.streak := by
  rw [recordLoss]
  split
  · rfl
  · split <;> rfl

/-- A loss counts; it locks when the streak has reached the threshold, and it starts a cooling down
when it is the first one. -/
theorem recordLoss_of_phase (h : l.phase = phaseOf e n) (hs : l.streak = min n Count.max)
    (now : Instant) :
    (l.recordLoss now).streak = min (n + 1) Count.max ∧
      (l.recordLoss now).phase =
        phaseOf (if l.threshold ≤ min (n + 1) Count.max then some (now.addCapped l.cooldown) else e)
          (n + 1) := by
  have hnext : nextStreak l.streak = min (n + 1) Count.max := by
    rw [hs, nextStreak_min]
  rw [recordLoss, hnext]
  by_cases hreach : l.threshold ≤ min (n + 1) Count.max
  · simp [hreach, phaseOf, expiryFrom]
  · simp only [hreach, if_false]
    -- below the threshold only a lockout that is clear changes its phase
    cases e with
    | some t => simp [h, phaseOf]
    | none =>
      cases n with
      | zero =>
        have hone : min (0 + 1) Count.max = 1 := by decide
        simp [h, phaseOf, hone]
      | succ n => simp [h, phaseOf]

/-- A question lifts a lockout that has expired and nothing else. -/
theorem refresh_of_phase (h : l.phase = phaseOf e n) (now : Instant) :
    l.refresh now =
      if e.any fun t => decide (t ≤ now) then { l with phase := .clear, streak := 0 } else l := by
  cases e with
  | some t =>
    rw [refresh, h]
    by_cases ht : t ≤ now <;> simp [phaseOf, ht]
  | none =>
    rw [refresh, h]
    cases n <;> simp [phaseOf]

theorem evaluate_fst (l : Lockout) (now : Instant) (intent : PositionIntent) :
    (l.evaluate now intent).1 = if intent.symbol.isEmpty then l else l.refresh now := by
  rw [evaluate]
  split <;> rfl

/-- Trading is refused exactly if the lockout has an expiry that has not been reached. -/
theorem poll_eq_false_iff (l : Lockout) (now : Instant) :
    (l.poll now).2 = false ↔ ∃ t, l.phase = .lockedOut t ∧ now < t := by
  rw [poll, refresh]
  cases hp : l.phase with
  | clear => simp [state, hp, LockoutPhase.state, LockoutState.permitsTrading]
  | coolingDown => simp [state, hp, LockoutPhase.state, LockoutState.permitsTrading]
  | lockedOut t =>
    by_cases ht : t ≤ now
    · simp [ht, state, LockoutPhase.state, LockoutState.permitsTrading, ← Instant.not_le]
    · simp [ht, state, hp, LockoutPhase.state, LockoutState.permitsTrading, ← Instant.not_le]

end Operations

/-! ## Agreement -/

/-- A chronicle accounts for a lockout: terms, clock, streak and phase are what it says. -/
structure Explains (c : Chronicle) (w : Watch) : Prop where
  threshold : w.lockout.threshold = c.threshold
  cooldown : w.lockout.cooldown = c.cooldown
  clock : w.now = c.now
  streak : w.lockout.streak = min c.losses Count.max
  phase : w.lockout.phase = c.phase

namespace Explains

variable {c : Chronicle} {w : Watch}

/-- A question is noted as a clearing poll exactly if it lifts the lockout. -/
theorem refresh (h : Explains c w) {a : Action} (hasks : a.asks = true)
    (hloss : (c.moment a).isLoss = false) (hwin : (c.moment a).isWin = false)
    (htrigger : (c.moment a).isTrigger c.threshold = false) (hclock : a.clock w.now = w.now) :
    Explains (c.note a) ⟨w.lockout.refresh w.now, w.now⟩ := by
  have hclear : (c.moment a).isClearing = c.expiry?.any fun t => decide (t ≤ c.now) := by
    rw [Moment.isClearing, show (c.moment a).action = a from rfl, hasks, Bool.true_and]
    rfl
  have hlosses := c.losses_note a
  have hexpiry := c.expiry?_note a
  rw [hwin, hloss, hclear] at hlosses
  rw [htrigger, hclear] at hexpiry
  have hrefresh := refresh_of_phase h.phase w.now
  rw [h.clock] at hrefresh hclock ⊢
  rw [hrefresh]
  -- lockout and chronicle ask the same question: is the expiry in force at or before now?
  cases hexpired : c.expiry?.any fun t => decide (t ≤ c.now) with
  | true =>
    simp only [hexpired, Bool.or_true, if_true] at hlosses hexpiry
    refine ⟨h.threshold, h.cooldown, hclock.symm, ?_, ?_⟩
    · simp [hlosses]
    · simp [Chronicle.phase, hlosses, hexpiry, phaseOf]
  | false =>
    simp only [hexpired, Bool.or_false, Bool.false_eq_true, if_false] at hlosses hexpiry
    refine ⟨h.threshold, h.cooldown, hclock.symm, ?_, ?_⟩
    · simpa [hlosses] using h.streak
    · simpa [Chronicle.phase, hlosses, hexpiry] using h.phase

/-- A lockout that an action does not touch is still accounted for. -/
theorem idle (h : Explains c w) {a : Action} (hloss : (c.moment a).isLoss = false)
    (hwin : (c.moment a).isWin = false) (hclear : (c.moment a).isClearing = false)
    (htrigger : (c.moment a).isTrigger c.threshold = false) :
    Explains (c.note a) ⟨w.lockout, a.clock w.now⟩ := by
  have hlosses : (c.note a).losses = c.losses := by
    rw [c.losses_note a, hwin, hloss, hclear]
    rfl
  have hexpiry : (c.note a).expiry? = c.expiry? := by
    rw [c.expiry?_note a, htrigger, hclear]
    rfl
  refine ⟨h.threshold, h.cooldown, ?_, ?_, ?_⟩
  · rw [h.clock, Chronicle.now_note]
  · rw [hlosses]
    exact h.streak
  · rw [Chronicle.phase, hlosses, hexpiry]
    exact h.phase

theorem win (h : Explains c w) :
    Explains (c.note (.outcome true)) ⟨w.lockout.recordWin, w.now⟩ := by
  have hlosses : (c.note (.outcome true)).losses = 0 := c.losses_note (.outcome true)
  have hexpiry : (c.note (.outcome true)).expiry? = c.expiry? := c.expiry?_note (.outcome true)
  refine ⟨h.threshold, h.cooldown, h.clock, ?_, ?_⟩
  · rw [hlosses]
    rfl
  · rw [Chronicle.phase, hlosses, hexpiry]
    exact phase_recordWin h.phase

theorem loss (h : Explains c w) :
    Explains (c.note (.outcome false)) ⟨w.lockout.recordLoss w.now, w.now⟩ := by
  have hlosses : (c.note (.outcome false)).losses = c.losses + 1 :=
    c.losses_note (.outcome false)
  have hexpiry : (c.note (.outcome false)).expiry? =
      if c.threshold ≤ min (c.losses + 1) Count.max then some (c.now.addCapped c.cooldown)
      else c.expiry? := by
    -- the loss is noted as a trigger under the condition under which the lockout locks
    have htrigger : (c.moment (.outcome false)).isTrigger c.threshold =
        decide (c.threshold ≤ min (c.losses + 1) Count.max) := rfl
    rw [c.expiry?_note (.outcome false), htrigger]
    by_cases hreach : c.threshold ≤ min (c.losses + 1) Count.max
    · rw [if_pos hreach, decide_eq_true hreach]
      rfl
    · rw [if_neg hreach, decide_eq_false hreach]
      rfl
  obtain ⟨hstreak, hphase⟩ := recordLoss_of_phase h.phase h.streak w.now
  refine ⟨?_, ?_, h.clock, ?_, ?_⟩
  · rw [threshold_recordLoss, h.threshold, Chronicle.threshold_note]
  · rw [cooldown_recordLoss, h.cooldown, Chronicle.cooldown_note]
  · rw [hlosses]
    exact hstreak
  · rw [Chronicle.phase, hlosses, hexpiry, hphase, h.threshold, h.cooldown, h.clock]

theorem force (h : Explains c w) :
    Explains (c.note .force) ⟨w.lockout.force w.now, w.now⟩ := by
  have hlosses : (c.note .force).losses = c.losses := c.losses_note .force
  have hexpiry : (c.note .force).expiry? = some (c.now.addCapped c.cooldown) :=
    c.expiry?_note .force
  refine ⟨h.threshold, h.cooldown, h.clock, ?_, ?_⟩
  · rw [hlosses]
    exact h.streak
  · rw [Chronicle.phase, hexpiry, phaseOf, Lockout.force, expiryFrom, h.cooldown, h.clock]

/-- What is accounted for before an action is accounted for after it. -/
theorem act (h : Explains c w) (a : Action) : Explains (c.note a) (w.act a) := by
  cases a with
  | outcome won =>
    cases won with
    | true => exact h.win
    | false => exact h.loss
  | force => exact h.force
  | poll => exact h.refresh rfl rfl rfl rfl rfl
  | evaluate intent =>
    rw [Watch.act, Watch.lockoutAfter, evaluate_fst]
    by_cases hsymbol : intent.symbol.isEmpty = true
    · -- without a symbol the lockout is not asked, so nothing is cleared
      rw [if_pos hsymbol]
      have hclear : (c.moment (.evaluate intent)).isClearing = false := by
        simp [Moment.isClearing, Chronicle.moment, Action.asks, hsymbol]
      exact h.idle rfl rfl hclear rfl
    · rw [if_neg hsymbol]
      have hasks : (Action.evaluate intent).asks = true := by
        simp [Action.asks, hsymbol]
      exact h.refresh hasks rfl rfl rfl rfl
  | setClock t => exact h.idle rfl rfl rfl rfl
  | advance d => exact h.idle rfl rfl rfl rfl

/-- What is accounted for before a run is accounted for after it. -/
theorem run (h : Explains c w) (actions : List Action) :
    Explains (actions.foldl Chronicle.note c) (w.run actions) := by
  induction actions generalizing c w with
  | nil => exact h
  | cons a rest ih => exact ih (h.act a)

end Explains

namespace Watch

/-- The chronicle of a run accounts for the lockout at its end. -/
theorem explains_run (mode : RiskMode) (threshold : Nat) (cooldown : Span) (start : Instant)
    (actions : List Action) :
    Explains
      (Chronicle.ofActions (repairThreshold threshold) (repairCooldown cooldown) start actions)
      (run ⟨.new mode threshold cooldown, start⟩ actions) := by
  apply Explains.run
  exact ⟨rfl, rfl, rfl, rfl, rfl⟩

end Watch

/-! ## A clock that never goes back -/

namespace Chronicle

/-- With a clock that never goes back, everything happened at or before the present. -/
theorem moments_le_now {c : Chronicle} (h : ∀ m ∈ c.moments, m.now ≤ c.now)
    {actions : List Action} (hforward : Forward c.now actions) :
    ∀ m ∈ (actions.foldl note c).moments, m.now ≤ (actions.foldl note c).now := by
  induction actions generalizing c with
  | nil => exact h
  | cons a rest ih =>
    obtain ⟨hstep, hrest⟩ := hforward
    refine ih (c := c.note a) ?_ hrest
    intro m hm
    rcases List.mem_cons.1 hm with rfl | hm
    · exact hstep
    · exact Instant.le_trans (h m hm) hstep

theorem trigger?_mem {c : Chronicle} {m : Moment} (h : c.trigger? = some m) : m ∈ c.moments :=
  (List.takeWhile_sublist _).subset (List.mem_of_find?_eq_some h)

/-- One more moment moves the expiry of a lockout that lasts to a later time, or not at all, unless
it is a trigger within a leap second. -/
theorem expiry?_note_mono {c : Chronicle} (hpast : ∀ m ∈ c.moments, m.now ≤ c.now)
    (hcooldown : 0 ≤ c.cooldown.nanos) {a : Action} {t t' : Instant} (ht : c.expiry? = some t)
    (ht' : (c.note a).expiry? = some t') :
    t ≤ t' ∨ (c.now.isLeap = true ∧ (c.moment a).isTrigger c.threshold = true) := by
  rw [expiry?_note] at ht'
  split at ht'
  · cases ht'
  · split at ht'
    · next htrigger =>
      cases hleap : c.now.isLeap with
      | true => exact .inr ⟨rfl, htrigger⟩
      | false =>
        obtain ⟨m, hm, rfl⟩ := Option.map_eq_some_iff.1 ht
        cases ht'
        exact .inl (Instant.addCapped_le_addCapped (hpast m (trigger?_mem hm)) hleap hcooldown)
    · rw [ht] at ht'
      cases ht'
      exact .inl (Instant.le_refl t)

end Chronicle

theorem repairCooldown_pos (d : Span) : 0 < (repairCooldown d).nanos := by
  rw [repairCooldown]
  split
  · decide
  · next hpos =>
    split
    · decide
    · exact Int.not_le.1 hpos

/-! ## The state as a function of the history -/

/-- A lockout whose state is read off a chronicle. -/
structure Determined (c : Chronicle) (w : Watch) : Prop where
  /-- The streak counts the losses since the later of the last win and the last clearing poll. -/
  streak : w.lockout.streak = min (c.sinceReset.countP Moment.isLoss) Count.max
  /-- Trading is locked out if there is a trigger after the last clearing poll. -/
  locked : w.lockout.state = .lockedOut ↔ ∃ m ∈ c.sinceClearing, m.isTrigger c.threshold = true
  /-- The expiry is the cooldown after the last trigger, or the last instant if that is beyond it. -/
  expiry : w.expiry? =
    (c.sinceClearing.find? (Moment.isTrigger c.threshold)).map fun m =>
      m.now.addCapped c.cooldown
  /-- For a trigger outside leap seconds this is a minimum of numbers of nanoseconds. -/
  expiry_position : ∀ m t, c.trigger? = some m → m.now.isLeap = false → w.expiry? = some t →
    t.position = min Instant.latest.position (m.now.position + c.cooldown.nanos)
  /-- Without a lockout, trading is cooling down if a loss counts. -/
  cooling : w.lockout.state ≠ .lockedOut →
    w.lockout.state = if c.losses = 0 then .none else .coolingDown
  /-- Trading is refused if it is locked out and the expiry has not been reached. -/
  answer : (w.lockout.poll w.now).2 = false ↔ ∃ t, w.expiry? = some t ∧ w.now < t
  /-- A win neither lifts nor shortens a lockout. -/
  win : (w.act (.outcome true)).expiry? = w.expiry?
  /-- A loss during a lockout starts the cooldown again if it is a trigger. -/
  loss : ∀ t, w.expiry? = some t → (w.act (.outcome false)).expiry? =
    some (if (c.moment (.outcome false)).isTrigger c.threshold then w.now.addCapped c.cooldown
      else t)

theorem Watch.poll_eq_false_iff (w : Watch) :
    (w.lockout.poll w.now).2 = false ↔ ∃ t, w.expiry? = some t ∧ w.now < t := by
  have hphase : ∀ t, w.lockout.phase = .lockedOut t ↔ w.expiry? = some t := by
    intro t
    rw [Watch.expiry?]
    cases w.lockout.phase <;> simp [LockoutPhase.expiry?]
  rw [Lockout.poll_eq_false_iff]
  simp only [hphase]

namespace Explains

variable {c : Chronicle} {w : Watch}

theorem expiry? (h : Explains c w) : w.expiry? = c.expiry? := by
  rw [Watch.expiry?, h.phase, Chronicle.phase, expiry?_phaseOf]

theorem state_eq_lockedOut_iff (h : Explains c w) :
    w.lockout.state = .lockedOut ↔ ∃ m ∈ c.sinceClearing, m.isTrigger c.threshold = true := by
  have hsome : w.lockout.state = .lockedOut ↔ c.trigger?.isSome = true := by
    rw [state, h.phase, Chronicle.phase, Chronicle.expiry?]
    cases c.trigger? with
    | some m => simp [phaseOf, LockoutPhase.state]
    | none => cases c.losses <;> simp [phaseOf, LockoutPhase.state]
  rw [hsome, Chronicle.trigger?, List.find?_isSome]

theorem state_of_unlocked (h : Explains c w) (hstate : w.lockout.state ≠ .lockedOut) :
    w.lockout.state = if c.losses = 0 then .none else .coolingDown := by
  rw [state, h.phase, Chronicle.phase] at hstate ⊢
  cases hexpiry : c.expiry? with
  | some t => exact absurd (by rw [hexpiry]; rfl) hstate
  | none => cases c.losses <;> simp [phaseOf, LockoutPhase.state]

/-- What a chronicle accounts for is determined by it. -/
theorem determined (h : Explains c w) (hcooldown : 0 ≤ c.cooldown.nanos) : Determined c w where
  streak := h.streak
  locked := h.state_eq_lockedOut_iff
  expiry := h.expiry?
  expiry_position m t hm hleap ht := by
    rw [h.expiry?, Chronicle.expiry?, hm] at ht
    cases ht
    exact (Instant.position_addCapped hleap hcooldown).1
  cooling := h.state_of_unlocked
  answer := w.poll_eq_false_iff
  win := by
    rw [(h.act (.outcome true)).expiry?, h.expiry?]
    exact c.expiry?_note (.outcome true)
  loss t ht := by
    rw [h.expiry?] at ht
    rw [(h.act (.outcome false)).expiry?, c.expiry?_note, h.clock, ht]
    split
    · next hclear => cases hclear
    · split <;> rfl

end Explains

namespace Watch

/-- After any run the state of a lockout is determined by its history.  If the clock has never gone
back, the expiry of a lockout that lasts is not moved to an earlier time either, but by a trigger
within a leap second. -/
theorem run_determined (mode : RiskMode) (threshold : Nat) (cooldown : Span) (start : Instant)
    (actions : List Action) :
    Determined
        (Chronicle.ofActions (repairThreshold threshold) (repairCooldown cooldown) start actions)
        (run ⟨.new mode threshold cooldown, start⟩ actions) ∧
      (Forward start actions → ∀ a t t',
        (run ⟨.new mode threshold cooldown, start⟩ actions).expiry? = some t →
        ((run ⟨.new mode threshold cooldown, start⟩ actions).act a).expiry? = some t' →
        t ≤ t' ∨
          ((run ⟨.new mode threshold cooldown, start⟩ actions).now.isLeap = true ∧
            ((Chronicle.ofActions (repairThreshold threshold) (repairCooldown cooldown) start
              actions).moment a).isTrigger (repairThreshold threshold) = true)) := by
  have hexplains := explains_run mode threshold cooldown start actions
  have hcooldown : 0 ≤ (Chronicle.ofActions (repairThreshold threshold) (repairCooldown cooldown)
      start actions).cooldown.nanos := by
    rw [Chronicle.cooldown_ofActions]
    exact Int.le_of_lt (repairCooldown_pos cooldown)
  refine ⟨hexplains.determined hcooldown, ?_⟩
  intro hforward a t t' ht ht'
  -- both expiries are read off the chronicle, where the triggers are known
  rw [hexplains.expiry?] at ht
  rw [(hexplains.act a).expiry?] at ht'
  rw [hexplains.clock]
  have hpast := Chronicle.moments_le_now
    (c := ⟨repairThreshold threshold, repairCooldown cooldown, start, []⟩) (by simp) hforward
  have hmono := Chronicle.expiry?_note_mono hpast hcooldown ht ht'
  rwa [← Chronicle.ofActions, Chronicle.threshold_ofActions] at hmono

/-- A run in which the clock only advances: two losses lock trading out, a third one within the
lockout starts the cooldown again, and a win changes nothing. -/
theorem run_determined_of_three_losses :
    let start : Instant := ⟨1756821600, 0, by decide, by decide, by decide⟩
    let w := run ⟨.new .standard 2 (.ofMinutes 15), start⟩
      [.outcome false, .outcome false, .advance (.ofMinutes 10)]
    Forward start [.outcome false, .outcome false, .advance (.ofMinutes 10)] ∧
      w.expiry? = some (start.addCapped (.ofMinutes 15)) ∧
      (w.act (.outcome true)).expiry? = w.expiry? ∧
      (w.act (.outcome false)).expiry? = some (start.addCapped (.ofMinutes 25)) ∧
      start.addCapped (.ofMinutes 15) ≤ start.addCapped (.ofMinutes 25) := by
  intro start w
  have hforward : Forward start [.outcome false, .outcome false, .advance (.ofMinutes 10)] :=
    ⟨by decide, by decide, by decide, trivial⟩
  obtain ⟨hstate, hmono⟩ := run_determined .standard 2 (.ofMinutes 15) start
    [.outcome false, .outcome false, .advance (.ofMinutes 10)]
  have hbefore : w.expiry? = some (start.addCapped (.ofMinutes 15)) := by decide
  have hafter : (w.act (.outcome false)).expiry? = some (start.addCapped (.ofMinutes 25)) := by
    decide
  refine ⟨hforward, hbefore, hstate.win, hafter, ?_⟩
  rcases hmono hforward _ _ _ hbefore hafter with hle | ⟨hleap, -⟩
  · exact hle
  · exact absurd hleap (by decide)

/-- Not every loss during a lockout moves its expiry to a later time.  One that comes ten minutes
after a forced lockout, with a threshold of two, leaves it where it is; and one within a leap second
moves it to an earlier time than that of a loss in the second before, although the clock has not
gone back. -/
theorem loss_need_not_extend :
    let start : Instant := ⟨1756821600, 0, by decide, by decide, by decide⟩
    let forced := run ⟨.new .standard 2 (.ofMinutes 15), start⟩ [.force, .advance (.ofMinutes 10)]
    let before : Instant := ⟨1483228799, 900000000, by decide, by decide, by decide⟩
    let leap : Instant := ⟨1483228799, 1500000000, by decide, by decide, by decide⟩
    let lost := run ⟨.new .standard 1 (.ofMinutes 15), before⟩ [.outcome false, .setClock leap]
    (forced.expiry? = some (start.addCapped (.ofMinutes 15)) ∧
        (forced.act (.outcome false)).expiry? = forced.expiry? ∧
        forced.now.addCapped forced.lockout.cooldown ≠ start.addCapped (.ofMinutes 15)) ∧
      Forward before [.outcome false, .setClock leap] ∧
      ∃ t t', lost.expiry? = some t ∧ (lost.act (.outcome false)).expiry? = some t' ∧ t' < t := by
  refine ⟨by decide, ⟨by decide, by decide, trivial⟩, ?_⟩
  exact ⟨_, _, rfl, rfl, by decide⟩

end Watch

end Lockout
end EntryGate
