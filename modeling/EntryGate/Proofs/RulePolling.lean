import EntryGate.Proofs.RuleAgreement

/-!
# What a poll leaves behind

A poll asks every rule of a tree that no switch hides, and lifts the lockouts that have expired.  The
state of a tree is read without changing anything, and caps have no part in it.  This file says how
the answer of a poll and the state after it go together, for every tree.

* `Rule.exposed` lists the places of a tree that a poll reaches: those that are not hidden behind a
  switch that refuses;
* `Rule.Swept` is what a poll does to these places, and `Rule.swept_poll` says that it reaches all of
  them, whatever the rules before them answer;
* `Rule.state_eq_lockedOut_iff` reads the state of a tree off the same places;
* `Rule.poll_settles` compares the answer with the state, and the poll with a second one.
-/

namespace EntryGate

/-! ## One lockout -/

namespace Lockout

/-- A lockout that a question has left is not expired. -/
theorem lt_of_refresh {l : Lockout} {now t : Instant} (h : (l.refresh now).phase = .lockedOut t) :
    now < t := by
  rw [refresh] at h
  cases hphase : l.phase with
  | clear => simp [hphase] at h
  | coolingDown => simp [hphase] at h
  | lockedOut expiry =>
    by_cases hexpired : expiry ≤ now
    · simp [hphase, hexpired] at h
    · have hsame : expiry = t := by simpa [hphase, hexpired] using h
      rw [← hsame]
      exact Instant.not_le.1 hexpired

theorem refresh_refresh (l : Lockout) (now : Instant) :
    (l.refresh now).refresh now = l.refresh now := by
  cases hphase : (l.refresh now).phase with
  | clear => rw [refresh, hphase]
  | coolingDown => rw [refresh, hphase]
  | lockedOut t =>
    -- a lockout that is still there was not expired, and is not now
    have hlocked : (l.refresh now).isLockedAt now = true := by
      simpa [isLockedAt, hphase, LockoutPhase.expiry?] using lt_of_refresh hphase
    exact refresh_of_locked hlocked

theorem poll_refresh (l : Lockout) (now : Instant) : (l.refresh now).poll now = l.poll now := by
  rw [poll, poll, refresh_refresh]

/-- After a question, trading is locked out if it was refused. -/
theorem state_refresh_eq_lockedOut_iff (l : Lockout) (now : Instant) :
    (l.refresh now).state = .lockedOut ↔ l.isLockedAt now = true := by
  have hanswer : (l.refresh now).state.permitsTrading = !l.isLockedAt now :=
    congrArg Prod.snd (l.poll_eq now)
  cases hstate : (l.refresh now).state with
  | none =>
    rw [hstate] at hanswer
    simpa [LockoutState.permitsTrading] using hanswer
  | coolingDown =>
    rw [hstate] at hanswer
    simpa [LockoutState.permitsTrading] using hanswer
  | lockedOut =>
    rw [hstate] at hanswer
    simpa [LockoutState.permitsTrading] using hanswer

end Lockout

/-! ## Places -/

namespace Checkpoint

/-- Whether the state of a tree is a lockout because of this place. -/
def locks : Checkpoint → Bool
  | .lockout l => decide (l.state = .lockedOut)
  | .caps _ => false
  | .guard g => g.isBlocked
  | .switch flags => flags.isBlocked

/-- A place that lets an entry pass does not lock. -/
theorem not_locks_passed {c : Checkpoint} {now : Instant} (h : c.refusal now = .ok none) :
    (c.passed now).locks = false := by
  cases c with
  | lockout l =>
    have hopen : ¬l.isLockedAt now = true := by
      intro hlocked
      simp [refusal, hlocked] at h
    rw [passed, locks, decide_eq_false_iff_not, Lockout.state_refresh_eq_lockedOut_iff]
    exact hopen
  | caps c => rfl
  | guard g =>
    have hfree : ¬g.maxLosses ≤ g.streak := by
      intro hreached
      simp [refusal, hreached] at h
    exact decide_eq_false hfree
  | switch flags =>
    have hfree : flags.refusal? = none := by simpa [refusal] using h
    exact congrArg Option.isSome hfree

/-- A place that does not let an entry pass locks, or it is a place of caps. -/
theorem locks_passed {c : Checkpoint} {now : Instant} (h : c.refusal now ≠ .ok none) :
    (c.passed now).locks = true ∨ ∃ caps, c = .caps caps := by
  cases c with
  | lockout l =>
    left
    have hlocked : l.isLockedAt now = true := by
      by_contra hopen
      exact h (by simp [refusal, hopen])
    rw [passed, locks, decide_eq_true_iff, Lockout.state_refresh_eq_lockedOut_iff]
    exact hlocked
  | caps caps => exact .inr ⟨caps, rfl⟩
  | guard g =>
    left
    have hreached : g.maxLosses ≤ g.streak := by
      by_contra hfree
      exact h (by simp [refusal, hfree])
    exact decide_eq_true hreached
  | switch flags =>
    left
    have hblocked : flags.refusal? ≠ none := by
      intro hfree
      exact h (by rw [refusal, hfree])
    exact Option.isSome_iff_ne_none.2 hblocked

end Checkpoint

namespace Rule

mutual

/-- The places of a tree that are not hidden behind a switch that refuses. -/
def exposed : Rule → List Checkpoint
  | .lockout l => [.lockout l]
  | .caps c => [.caps c]
  | .guard g => [.guard g]
  | .switch flags inner => .switch flags :: if flags.isBlocked then [] else exposed inner
  | .chain _ rules => exposedAll rules

def exposedAll : List Rule → List Checkpoint
  | [] => []
  | r :: rs => exposed r ++ exposedAll rs

end

/-! ## State -/

/-- A list of rules is locked out if one of them is. -/
theorem stateAll_cons_eq_lockedOut_iff {r : Rule} {rs : List Rule} :
    stateAll (r :: rs) = .lockedOut ↔ r.state = .lockedOut ∨ stateAll rs = .lockedOut := by
  rw [stateAll]
  cases r.state <;> cases stateAll rs <;> simp

mutual

/-- A tree is locked out if one of its exposed places locks. -/
theorem state_eq_lockedOut_iff (r : Rule) :
    r.state = .lockedOut ↔ ∃ c ∈ r.exposed, c.locks = true := by
  cases r with
  | lockout l => simp [state, exposed, Checkpoint.locks]
  | caps c => simp [state, exposed, Checkpoint.locks]
  | guard g => simp [state, exposed, Checkpoint.locks, LossGuard.state]
  | switch flags inner =>
    have hinner := state_eq_lockedOut_iff inner
    rw [state, exposed]
    cases hblocked : flags.isBlocked with
    | true => simp [Checkpoint.locks, hblocked]
    | false => simpa [Checkpoint.locks, hblocked] using hinner
  | chain mode rules => exact stateAll_eq_lockedOut_iff rules

theorem stateAll_eq_lockedOut_iff (rules : List Rule) :
    stateAll rules = .lockedOut ↔ ∃ c ∈ exposedAll rules, c.locks = true := by
  cases rules with
  | nil => simp [stateAll, exposedAll]
  | cons r rs =>
    rw [stateAll_cons_eq_lockedOut_iff, state_eq_lockedOut_iff r, stateAll_eq_lockedOut_iff rs,
      exposedAll]
    simp only [List.mem_append, or_and_right, exists_or]

end

/-! ## One poll -/

/-- What a poll makes of the exposed places, and its answer: every place is passed, and trading is
allowed if none of them refuses. -/
structure Swept (now : Instant) (before after : List Checkpoint) (ok : Bool) : Prop where
  places : after = before.map (Checkpoint.passed now)
  allows : ok = true ↔ ∀ c ∈ before, c.refusal now = .ok none

theorem Swept.append {now : Instant} {before after before' after' : List Checkpoint}
    {here there : Bool} (h : Swept now before after here) (h' : Swept now before' after' there) :
    Swept now (before ++ before') (after ++ after') (here && there) where
  places := by rw [h.places, h'.places, List.map_append]
  allows := by rw [Bool.and_eq_true, h.allows, h'.allows, List.forall_mem_append]

mutual

/-- A poll answers if the exposed caps meet no fault, and it reaches every exposed place. -/
theorem swept_poll (now : Instant) (r : Rule)
    (h : ∀ c, Checkpoint.caps c ∈ r.exposed → ∃ d, c.decision = .ok d) :
    ∃ ok, (r.poll now).2 = .ok ok ∧ Swept now r.exposed (r.poll now).1.exposed ok := by
  cases r with
  | lockout l =>
    refine ⟨!l.isLockedAt now, ?_, ?_, ?_⟩
    · rw [poll, Lockout.poll_eq]
    · rw [poll, Lockout.poll_eq]
      rfl
    · cases hlocked : l.isLockedAt now <;> simp [exposed, Checkpoint.refusal, hlocked]
  | caps c =>
    obtain ⟨d, hd⟩ := h c List.mem_cons_self
    refine ⟨d.isAllow, ?_, rfl, ?_⟩
    · rw [poll, hd]
      rfl
    · cases d <;>
        simp [exposed, Checkpoint.refusal, CapsRule.refusal, hd, RiskDecision.isAllow, bind,
          Except.bind, pure, Except.pure]
  | guard g =>
    refine ⟨!g.isBlocked, rfl, rfl, ?_⟩
    simp [exposed, Checkpoint.refusal, LossGuard.isBlocked]
  | switch flags inner =>
    rw [poll, exposed]
    cases hflags : flags.refusal? with
    | some reason =>
      have hblocked : flags.isBlocked = true := by rw [SwitchFlags.isBlocked, hflags]; rfl
      rw [if_pos hblocked]
      -- what the switch hides is not asked, but it is not exposed either
      refine ⟨false, rfl, ?_, ?_⟩
      · simp [exposed, hblocked, Checkpoint.passed]
      · simp [hblocked, Checkpoint.refusal, hflags]
    | none =>
      have hfree : flags.isBlocked = false := by rw [SwitchFlags.isBlocked, hflags]; rfl
      have hinner : ∀ c, Checkpoint.caps c ∈ inner.exposed → ∃ d, c.decision = .ok d := by
        intro c hc
        exact h c (by simp [exposed, hfree, hc])
      obtain ⟨ok, hok, hswept⟩ := swept_poll now inner hinner
      rw [hfree]
      refine ⟨ok, hok, ?_, ?_⟩
      · simp [exposed, hfree, Checkpoint.passed, hswept.places]
      · simp [Checkpoint.refusal, hflags, hswept.allows]
  | chain mode rules => exact swept_pollAll now rules h

theorem swept_pollAll (now : Instant) (rules : List Rule)
    (h : ∀ c, Checkpoint.caps c ∈ exposedAll rules → ∃ d, c.decision = .ok d) :
    ∃ ok, (pollAll now rules).2 = .ok ok ∧
      Swept now (exposedAll rules) (exposedAll (pollAll now rules).1) ok := by
  cases rules with
  | nil => exact ⟨true, rfl, rfl, by simp [exposedAll]⟩
  | cons r rs =>
    obtain ⟨here, hhere, hfirst⟩ := swept_poll now r fun c hc => h c (List.mem_append_left _ hc)
    obtain ⟨there, hthere, hothers⟩ :=
      swept_pollAll now rs fun c hc => h c (List.mem_append_right _ hc)
    -- the others are asked whatever the first one answers
    rw [pollAll_of_answer hhere, hthere]
    exact ⟨here && there, rfl, hfirst.append hothers⟩

end

mutual

/-- A second poll at the same time gives the same answer and changes nothing. -/
theorem poll_poll (now : Instant) (r : Rule) : poll now (poll now r).1 = poll now r := by
  cases r with
  | lockout l =>
    have hpolled : (l.poll now).1.poll now = l.poll now := l.poll_refresh now
    rw [poll, poll, hpolled]
  | caps c => rfl
  | guard g => rfl
  | switch flags inner =>
    cases hblocked : flags.isBlocked with
    | true => simp [poll, hblocked]
    | false => simp [poll, hblocked, poll_poll now inner]
  | chain mode rules => simp [poll, pollAll_pollAll now rules]

theorem pollAll_pollAll (now : Instant) (rules : List Rule) :
    pollAll now (pollAll now rules).1 = pollAll now rules := by
  cases rules with
  | nil => rfl
  | cons r rs =>
    have hr := poll_poll now r
    have hrs := pollAll_pollAll now rs
    rcases hanswer : poll now r with ⟨r', fault | here⟩
    · -- a fault ends the second poll where it has ended the first one
      rw [hanswer] at hr
      simp [pollAll, hanswer, hr]
    · rw [hanswer] at hr
      simp [pollAll, hanswer, hr, hrs]

end

/-! ## Answer and state -/

section Answer

variable {now : Instant} {r : Rule} {ok : Bool}

/-- A poll that allows trading leaves no lockout behind. -/
theorem Swept.state_of_allowed {r' : Rule} (h : Swept now r.exposed r'.exposed ok) (hok : ok = true) :
    r'.state ≠ .lockedOut := by
  intro hstate
  obtain ⟨c, hc, hlocks⟩ := (state_eq_lockedOut_iff r').1 hstate
  rw [h.places] at hc
  obtain ⟨first, hfirst, rfl⟩ := List.mem_map.1 hc
  have hfree := Checkpoint.not_locks_passed (h.allows.1 hok first hfirst)
  rw [hlocks] at hfree
  cases hfree

/-- A poll that does not allow trading leaves a lockout behind, or has met caps that refuse. -/
theorem Swept.state_of_refused {r' : Rule} (h : Swept now r.exposed r'.exposed ok)
    (hok : ok = false) :
    r'.state = .lockedOut ∨
      ∃ c, Checkpoint.caps c ∈ r.exposed ∧ (Checkpoint.caps c).refusal now ≠ .ok none := by
  have hrefuses : ∃ c ∈ r.exposed, c.refusal now ≠ .ok none := by
    by_contra hall
    have hallows : ok = true := h.allows.2 (by simpa using hall)
    rw [hok] at hallows
    cases hallows
  obtain ⟨c, hc, hrefusal⟩ := hrefuses
  rcases Checkpoint.locks_passed hrefusal with hlocks | ⟨caps, rfl⟩
  · left
    rw [state_eq_lockedOut_iff, h.places]
    exact ⟨c.passed now, List.mem_map_of_mem hc, hlocks⟩
  · exact .inr ⟨caps, hc, hrefusal⟩

/-- A lockout that a poll has reached is not expired. -/
theorem Swept.lt_of_lockedOut {before after : List Checkpoint} (h : Swept now before after ok)
    {l : Lockout} (hl : Checkpoint.lockout l ∈ after) {t : Instant} (ht : l.phase = .lockedOut t) :
    now < t := by
  rw [h.places] at hl
  obtain ⟨first, -, hpassed⟩ := List.mem_map.1 hl
  cases first with
  | lockout first =>
    cases hpassed
    exact Lockout.lt_of_refresh ht
  | caps c => cases hpassed
  | guard g => cases hpassed
  | switch flags => cases hpassed

end Answer

theorem breached_of_refusal {c : CapsRule} {now : Instant} {d : RiskDecision}
    (hd : c.decision = .ok d) (h : (Checkpoint.caps c).refusal now ≠ .ok none) : d ≠ .allow := by
  rintro rfl
  apply h
  rw [Checkpoint.refusal, CapsRule.refusal, hd]
  rfl

/-- Polls of a tree whose exposed caps meet no fault.  There is an answer; if it allows trading, the
tree is not locked out, and if it does not, the tree is locked out unless exposed caps are breached.
A second poll at the same time gives the same answer and changes nothing.  Every exposed place has
been reached, so that no exposed lockout is left that has expired. -/
theorem poll_settles (now : Instant) (r : Rule)
    (hcomputes : ∀ c, Checkpoint.caps c ∈ r.exposed → ∃ d, c.decision = .ok d) :
    ∃ ok, (r.poll now).2 = .ok ok ∧
      (ok = true → (r.poll now).1.state ≠ .lockedOut) ∧
      (ok = false → (r.poll now).1.state = .lockedOut ∨
        ∃ c d, Checkpoint.caps c ∈ r.exposed ∧ c.decision = .ok d ∧ d ≠ .allow) ∧
      (r.poll now).1.poll now = ((r.poll now).1, .ok ok) ∧
      (r.poll now).1.exposed = r.exposed.map (Checkpoint.passed now) ∧
      ∀ l t, Checkpoint.lockout l ∈ (r.poll now).1.exposed → l.phase = .lockedOut t → now < t := by
  obtain ⟨ok, hok, hswept⟩ := swept_poll now r hcomputes
  refine ⟨ok, hok, hswept.state_of_allowed, ?_, ?_, hswept.places, ?_⟩
  · intro hrefused
    rcases hswept.state_of_refused hrefused with hlocked | ⟨c, hc, hrefusal⟩
    · exact .inl hlocked
    · obtain ⟨d, hd⟩ := hcomputes c hc
      exact .inr ⟨c, d, hc, hd, breached_of_refusal hd hrefusal⟩
  · rw [poll_poll, ← hok]
  · intro l t hl ht
    exact hswept.lt_of_lockedOut hl ht

/-- A guard refuses, and behind it there are two lockouts that have expired, one of them hidden by a
switch that is off.  The poll does not allow trading, lifts the lockout that is not hidden, and
leaves a tree that is locked out. -/
theorem poll_settles_of_two_expired :
    let start : Instant := ⟨1756821600, 0, by decide, by decide, by decide⟩
    let now := start.addCapped (.ofMinutes 20)
    let lockout := Lockout.new .standard 1 (.ofMinutes 15)
    let locked := lockout.record start false
    let guard : LossGuard := { LossGuard.new 1 "one loss" with streak := 1 }
    let off : SwitchFlags := ⟨false, false⟩
    let caps : CapsRule := ⟨{ RiskCaps.uncapped with trailingDrawdown := .ten }, .empty⟩
    let r : Rule := .chain .standard
      [.guard guard, .switch off (.lockout locked), .lockout locked, .caps caps]
    (∀ c, Checkpoint.caps c ∈ r.exposed → ∃ d, c.decision = .ok d) ∧
      (r.poll now).2 = .ok false ∧ (r.poll now).1.state = .lockedOut ∧
      (r.poll now).1.poll now = ((r.poll now).1, .ok false) ∧
      (r.poll now).1.checkpoints =
        [.guard guard, .switch off, .lockout locked, .lockout lockout, .caps caps] := by
  intro start now lockout locked guard off caps r
  have hplaces : r.exposed = [.guard guard, .switch off, .lockout locked, .caps caps] := rfl
  have hallow : caps.decision = .ok .allow := by decide +kernel
  have hcaps : ∀ c, Checkpoint.caps c ∈ r.exposed → c = caps := by
    intro c hc
    simpa [hplaces] using hc
  have hcomputes : ∀ c, Checkpoint.caps c ∈ r.exposed → ∃ d, c.decision = .ok d := by
    intro c hc
    rw [hcaps c hc]
    exact ⟨.allow, hallow⟩
  have hanswer : (r.poll now).2 = .ok false := by decide +kernel
  obtain ⟨ok, hok, -, hrefused, hagain, -⟩ := poll_settles now r hcomputes
  have hfalse : ok = false := Except.ok.inj (hok.symm.trans hanswer)
  subst hfalse
  refine ⟨hcomputes, hanswer, ?_, hagain, by decide +kernel⟩
  rcases hrefused rfl with hlocked | ⟨c, d, hc, hd, hbreached⟩
  · exact hlocked
  · -- the only caps of this tree are not breached
    rw [hcaps c hc, hallow] at hd
    exact absurd (Except.ok.inj hd).symm hbreached

end Rule
end EntryGate
