import EntryGate.Proofs.LockoutHistory

/-!
# Phase and streak of a lockout

A lockout keeps its phase and its streak side by side, and no operation computes one from the other: a
win ends the streak and only sometimes the phase, a forced lockout sets the phase at any streak, and a
question may reset both.  They agree all the same, in every state that a lockout can reach and with
every threshold.

* `Lockout.Coherent` is the agreement, with one lemma for every operation that keeps it;
* `Lockout.Watch.lockoutAfter_cases` is all that one action does to a lockout.  From it follow
  `Lockout.Watch.coherent_run`, by induction on the history, and `Lockout.Watch.resets_of_streak_lt`,
  which says when a streak becomes shorter;
* `Lockout.Watch.phase_agrees_with_streak` is the result.
-/

namespace EntryGate
namespace Lockout

/-! ## Agreement -/

/-- The phase of a lockout and its streak say the same. -/
structure Coherent (l : Lockout) : Prop where
  /-- A single loss is the least that can lock trading out. -/
  threshold_pos : 1 ≤ l.threshold
  clear : l.phase = .clear → l.streak = 0
  cooling : l.phase = .coolingDown → 1 ≤ l.streak ∧ l.streak < l.threshold
  reached : l.threshold ≤ l.streak → l.state = .lockedOut
  streak_le : l.streak ≤ Count.max

theorem one_le_repairThreshold (threshold : Nat) : 1 ≤ repairThreshold threshold := by
  rw [repairThreshold]
  split <;> omega

/-- A lockout that is clear and without a streak is coherent. -/
theorem coherent_of_clear {l : Lockout} (hpos : 1 ≤ l.threshold) (hphase : l.phase = .clear)
    (hstreak : l.streak = 0) : l.Coherent := by
  refine ⟨hpos, fun _ => hstreak, ?_, ?_, ?_⟩
  · intro hcooling
    rw [hphase] at hcooling
    cases hcooling
  · intro hreached
    omega
  · rw [hstreak]
    exact Nat.zero_le _

theorem coherent_new (mode : RiskMode) (threshold : Nat) (cooldown : Span) :
    (new mode threshold cooldown).Coherent :=
  coherent_of_clear (one_le_repairThreshold threshold) rfl rfl

namespace Coherent

variable {l : Lockout}

theorem renew (h : l.Coherent) : { l with phase := .clear, streak := 0 }.Coherent :=
  coherent_of_clear h.threshold_pos rfl rfl

theorem refresh (h : l.Coherent) (now : Instant) : (l.refresh now).Coherent := by
  rw [Lockout.refresh]
  split
  · split
    · exact h.renew
    · exact h
  · exact h

/-- Locking trading out is coherent with any streak. -/
theorem lock (h : l.Coherent) {streak : Nat} (hstreak : streak ≤ Count.max) (expiry : Instant) :
    { l with phase := .lockedOut expiry, streak := streak }.Coherent := by
  refine ⟨h.threshold_pos, ?_, ?_, fun _ => rfl, hstreak⟩
  · intro hphase
    cases hphase
  · intro hphase
    cases hphase

theorem force (h : l.Coherent) (now : Instant) : (l.force now).Coherent :=
  h.lock h.streak_le _

theorem recordWin (h : l.Coherent) : l.recordWin.Coherent := by
  cases hphase : l.phase with
  | clear | coolingDown =>
    have hcleared : l.recordWin = { l with phase := .clear, streak := 0 } := by
      simp [Lockout.recordWin, hphase]
    rw [hcleared]
    exact h.renew
  | lockedOut t =>
    -- the lockout stays, without the streak that led to it
    have hstays : l.recordWin = { l with phase := .lockedOut t, streak := 0 } := by
      simp [Lockout.recordWin, hphase]
    rw [hstays]
    exact h.lock (Nat.zero_le _) t

theorem recordLoss (h : l.Coherent) (now : Instant) : (l.recordLoss now).Coherent := by
  have hnext : 1 ≤ nextStreak l.streak ∧ nextStreak l.streak ≤ Count.max := by
    have hmax : 1 ≤ Count.max := by decide
    rw [nextStreak]
    omega
  rw [Lockout.recordLoss]
  by_cases hreached : l.threshold ≤ nextStreak l.streak
  · rw [if_pos hreached]
    exact h.lock hnext.2 _
  · rw [if_neg hreached]
    by_cases hfirst : nextStreak l.streak = 1 ∧ l.phase = .clear
    · rw [if_pos hfirst]
      refine ⟨h.threshold_pos, ?_, ?_, ?_, hnext.2⟩
      · intro hphase
        cases hphase
      · intro _
        exact ⟨hnext.1, Nat.not_le.1 hreached⟩
      · intro hagain
        exact absurd hagain hreached
    · rw [if_neg hfirst]
      refine ⟨h.threshold_pos, ?_, ?_, ?_, hnext.2⟩
      · -- the first loss of a lockout that is clear has been dealt with above
        intro hphase
        have hone : nextStreak l.streak = 1 := by
          rw [h.clear hphase]
          decide
        exact absurd ⟨hone, hphase⟩ hfirst
      · intro _
        exact ⟨hnext.1, Nat.not_le.1 hreached⟩
      · intro hagain
        exact absurd hagain hreached

end Coherent

/-! ## Histories -/

namespace Watch

/-- All that an action does to a lockout. -/
theorem lockoutAfter_cases (w : Watch) (a : Action) :
    (a = .outcome true ∧ w.lockoutAfter a = w.lockout.recordWin) ∨
      (a = .outcome false ∧ w.lockoutAfter a = w.lockout.recordLoss w.now) ∨
      (a = .force ∧ w.lockoutAfter a = w.lockout.force w.now) ∨
      (a.asks = true ∧ w.lockoutAfter a = w.lockout.refresh w.now) ∨
      w.lockoutAfter a = w.lockout := by
  cases a with
  | outcome win =>
    cases win with
    | true => exact .inl ⟨rfl, rfl⟩
    | false => exact .inr (.inl ⟨rfl, rfl⟩)
  | force => exact .inr (.inr (.inl ⟨rfl, rfl⟩))
  | poll => exact .inr (.inr (.inr (.inl ⟨rfl, rfl⟩)))
  | evaluate intent =>
    rw [lockoutAfter, evaluate_fst, Action.asks]
    -- without a symbol the lockout is not asked
    cases intent.symbol.isEmpty with
    | true => exact .inr (.inr (.inr (.inr rfl)))
    | false => exact .inr (.inr (.inr (.inl ⟨rfl, rfl⟩)))
  | setClock now => exact .inr (.inr (.inr (.inr rfl)))
  | advance span => exact .inr (.inr (.inr (.inr rfl)))

theorem coherent_act {w : Watch} (h : w.lockout.Coherent) (a : Action) :
    (w.act a).lockout.Coherent := by
  show (w.lockoutAfter a).Coherent
  rcases w.lockoutAfter_cases a with
    ⟨-, hwin⟩ | ⟨-, hloss⟩ | ⟨-, hforced⟩ | ⟨-, hasked⟩ | hidle
  · rw [hwin]
    exact h.recordWin
  · rw [hloss]
    exact h.recordLoss w.now
  · rw [hforced]
    exact h.force w.now
  · rw [hasked]
    exact h.refresh w.now
  · rw [hidle]
    exact h

theorem coherent_run {w : Watch} (h : w.lockout.Coherent) (actions : List Action) :
    (w.run actions).lockout.Coherent := by
  induction actions generalizing w with
  | nil => exact h
  | cons a rest ih => exact ih (coherent_act h a)

/-- A streak becomes shorter by a win, or by a question that lifts a lockout, and not otherwise: a
loss on top of the greatest count leaves it there. -/
theorem resets_of_streak_lt {w : Watch} {a : Action} (hmax : w.lockout.streak ≤ Count.max)
    (h : (w.act a).lockout.streak < w.lockout.streak) :
    a = .outcome true ∨ (a.asks = true ∧ ∃ t, w.expiry? = some t ∧ t ≤ w.now) := by
  have hafter : (w.lockoutAfter a).streak < w.lockout.streak := h
  rcases w.lockoutAfter_cases a with
    ⟨hwin, -⟩ | ⟨-, hloss⟩ | ⟨-, hforced⟩ | ⟨hasks, hasked⟩ | hidle
  · exact .inl hwin
  · rw [hloss, streak_recordLoss, nextStreak] at hafter
    omega
  · rw [hforced] at hafter
    exact absurd hafter (Nat.lt_irrefl _)
  · right
    refine ⟨hasks, ?_⟩
    rw [hasked, Lockout.refresh] at hafter
    rw [expiry?]
    -- only a lockout that has expired is changed by a question
    cases hphase : w.lockout.phase with
    | clear => simp [hphase] at hafter
    | coolingDown => simp [hphase] at hafter
    | lockedOut t =>
      by_cases hexpired : t ≤ w.now
      · exact ⟨t, rfl, hexpired⟩
      · simp [hphase, hexpired] at hafter
  · rw [hidle] at hafter
    exact absurd hafter (Nat.lt_irrefl _)

theorem isSome_expiry?_iff (w : Watch) :
    w.expiry?.isSome = true ↔ w.lockout.state = .lockedOut := by
  rw [expiry?, state]
  cases w.lockout.phase <;> simp [LockoutPhase.expiry?, LockoutPhase.state]

/-- After any history, phase and streak of a lockout agree, and it has an expiry exactly if trading is
locked out.  The streak does not start over when it has reached the greatest count: a loss adds one to
it or leaves it there, and what makes it shorter is a win, or a question that lifts the lockout. -/
theorem phase_agrees_with_streak (mode : RiskMode) (threshold : Nat) (cooldown : Span)
    (start : Instant) (actions : List Action) :
    let w := run ⟨.new mode threshold cooldown, start⟩ actions
    w.lockout.Coherent ∧
      (w.expiry?.isSome = true ↔ w.lockout.state = .lockedOut) ∧
      (w.act (.outcome false)).lockout.streak = min (w.lockout.streak + 1) Count.max ∧
      ∀ a, (w.act a).lockout.streak < w.lockout.streak →
        a = .outcome true ∨ (a.asks = true ∧ ∃ t, w.expiry? = some t ∧ t ≤ w.now) := by
  intro w
  have hcoherent : w.lockout.Coherent :=
    coherent_run (coherent_new mode threshold cooldown) actions
  refine ⟨hcoherent, w.isSome_expiry?_iff, w.lockout.streak_recordLoss w.now, ?_⟩
  intro a hshorter
  exact resets_of_streak_lt hcoherent.streak_le hshorter

end Watch

end Lockout
end EntryGate
