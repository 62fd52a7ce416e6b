import EntryGate.Proofs.LimitPrices
import EntryGate.Proofs.TrailingLineage

/-!
# Strategies without an opinion

A strategy without an opinion answers with the prior stop, and where there is none yet that is a stop
at zero.  Neither a tracker nor a planner tells this zero from a price.  A tracker that had no stop has
one at zero from the first price on, which a short position has reached at every price.  A planner
takes zero for the protective stop of an entry, and it lies on the protective side of every long entry
at a positive price.

* `StopTracker.run_of_silent` is what any sequence of prices does to a tracker, and
  `StopTracker.stop_of_silent` what follows for one without a stop;
* `Planner.accepted_without_opinion_iff` says which entries are accepted without an opinion.
-/

namespace EntryGate

/-- Without an opinion the answer is the prior stop. -/
theorem StopStrategy.ratchetStop_of_none {s : StopStrategy} {q : StopQuery}
    (h : s.stop q.entry q.current q.isLong = .ok none) : s.ratchetStop q = .ok q.prior := by
  rw [ratchetStop, h]
  rfl

/-! ## Trackers -/

namespace StopTracker

variable {t : StopTracker} {s : StopStrategy}

/-- A price without an opinion makes a stop of the prior stop, which may be the zero that stands for
none. -/
theorem act_of_none {price : Decimal} (h : s.stop t.entry price t.isLong = .ok none) :
    t.act (.update s.ratchet price) = ({ t with stop := some t.prior }, .ok t.prior) := by
  have hstop : s.ratchet.stop ⟨t.entry, price, t.isLong, t.profile, t.prior⟩ = .ok t.prior :=
    StopStrategy.ratchetStop_of_none h
  simp only [act, update, hstop, propose, tighten_self]

/-- All further prices leave the tracker as the first one does. -/
theorem run_of_silent (hs : s.Silent) {prices : List Decimal} (hne : prices ≠ []) :
    t.run (prices.map (.update s.ratchet)) = { t with stop := some t.prior } := by
  induction prices generalizing t with
  | nil => exact absurd rfl hne
  | cons price rest ih =>
    have hfirst : t.run ((price :: rest).map (.update s.ratchet)) =
        StopTracker.run { t with stop := some t.prior } (rest.map (.update s.ratchet)) := by
      show (t.act (.update s.ratchet price)).1.run _ = _
      rw [act_of_none (hs t.entry price t.isLong)]
    rw [hfirst]
    by_cases hlast : rest = []
    · subst hlast
      rfl
    · exact ih hlast

theorem returned_of_silent (hs : s.Silent) (prices : List Decimal) :
    t.returned (prices.map (.update s.ratchet)) = List.replicate prices.length t.prior := by
  induction prices generalizing t with
  | nil => rfl
  | cons price rest ih =>
    have hact := act_of_none (s := s) (t := t) (hs t.entry price t.isLong)
    rw [List.map_cons, returned, hact]
    -- the stop that is kept is the prior stop of the rest
    exact congrArg (t.prior :: ·) ih

/-- A tracker without a stop that is followed with a strategy without an opinion.  Before the first
price there is no stop, and nothing triggers it.  From the first price on there is one at zero: every
answer is zero, and what triggers it are the prices on the other side of zero. -/
theorem stop_of_silent (hs : s.Silent) (hnone : t.stop = none) (prices : List Decimal) :
    (t.run (prices.map (.update s.ratchet))).stop = (if prices = [] then none else some .zero) ∧
      t.returned (prices.map (.update s.ratchet)) = List.replicate prices.length .zero ∧
      ∀ p, (t.run (prices.map (.update s.ratchet))).isTriggered p = true ↔
        prices ≠ [] ∧ if t.isLong then p ≤ .zero else .zero ≤ p := by
  have hprior : t.prior = .zero := prior_of_none hnone
  refine ⟨?_, ?_, ?_⟩
  · by_cases hempty : prices = []
    · subst hempty
      exact hnone
    · rw [run_of_silent hs hempty, if_neg hempty, hprior]
  · rw [returned_of_silent hs, hprior]
  · intro p
    by_cases hempty : prices = []
    · subst hempty
      show t.isTriggered p = true ↔ _
      simp [isTriggered, hnone]
    · rw [run_of_silent hs hempty, hprior, isTriggered]
      cases t.isLong with
      | true => simp [hempty]
      | false => simp [hempty]

/-- A long position whose strategy is a composite of none.  After two prices it has a stop at zero,
which no positive price triggers. -/
theorem stop_of_silent_of_no_parts :
    let t := new true (.whole false 100 (by decide)) .defaults
    let s : StopStrategy := .composite []
    let prices : List Decimal := [.whole false 100 (by decide), .whole false 50 (by decide)]
    t.stop = none ∧ (t.run (prices.map (.update s.ratchet))).stop = some .zero ∧
      (t.run (prices.map (.update s.ratchet))).isTriggered .one = false := by
  intro t s prices
  have hs : s.Silent := fun _ _ _ => rfl
  obtain ⟨hstop, -, htriggered⟩ := stop_of_silent (t := t) hs rfl prices
  refine ⟨rfl, hstop, Bool.eq_false_iff.2 fun hreached => ?_⟩
  exact absurd ((htriggered .one).1 hreached).2 (by decide)

/-- A short position at 100 whose strategy takes a fraction of zero, and so has no opinion.  The first
price, 100 again, leaves it with a stop at zero that this price has reached. -/
theorem silent_strategy_triggers :
    let t := new false (.whole false 100 (by decide)) .defaults
    let s : StopStrategy := .percent .zero
    s.Silent ∧ t.stop = none ∧
      (t.run [.update s.ratchet (.whole false 100 (by decide))]).stop = some .zero ∧
      (t.run [.update s.ratchet (.whole false 100 (by decide))]).isTriggered
        (.whole false 100 (by decide)) = true := by
  intro t s
  have hs : s.Silent := by
    intro entry current isLong
    show StopStrategy.stop entry current isLong (.percent .zero) = _
    rw [StopStrategy.stop]
    exact StopStrategy.percentStop_of_idle (by decide) entry current isLong
  exact ⟨hs, rfl, by decide, by decide⟩

end StopTracker

/-! ## Planners -/

/-- Zero is a number of ticks of any size. -/
theorem Decimal.zero_roundToTick (tick : Decimal) : Decimal.zero.roundToTick tick = .ok .zero := by
  rw [roundToTick]
  by_cases htick : tick ≤ zero
  · rw [if_pos htick]
  · have hdigits : tick.digits ≠ 0 := (pos_iff.1 (not_le.1 htick)).2
    have hdiv : zero.div tick = .ok zero := by
      rw [div, if_neg hdigits]
      exact if_pos rfl
    have hmul : zero.roundWhole.mul tick = .ok zero := by
      rw [mul]
      exact if_pos (Or.inl rfl)
    rw [if_neg htick, hdiv]
    exact hmul

namespace Planner

variable {ρ : Type} {p : Planner ρ} {s : StopStrategy} {r : EntryRequest} {state : ρ}
  {entry : Decimal}

/-- Without an opinion the protective stop is zero. -/
theorem stopPrice_of_none (htrailing : p.trailing = s.ratchet)
    (hnone : s.stop entry entry r.side.isLong = .ok none) : p.stopPrice r entry = .ok .zero := by
  have hstop : p.trailing.stopWithTick r.tickSize
      ⟨entry, entry, r.side.isLong, r.profile, .zero⟩ = .ok .zero := by
    rw [htrailing]
    exact StopStrategy.ratchetStop_of_none hnone
  rw [stopPrice, hstop]
  exact Decimal.zero_roundToTick r.tickSize

theorem accepted_iff_passesSizing {oco : String} :
    (p.build oco r state).Accepted ↔ PassesSizing p state r ∧ p.Priced r := by
  rw [accepted_build_iff]
  constructor
  · rintro ⟨hsymbol, hside, hrisk, hsession, hquantity, hpriced⟩
    exact ⟨⟨⟨hsymbol, hside, hrisk⟩, hsession, Nat.ne_of_gt hquantity⟩, hpriced⟩
  · rintro ⟨h, hpriced⟩
    exact ⟨h.symbol, h.side, h.risk, h.session, Nat.pos_of_ne_zero h.quantity, hpriced⟩

/-- A price that passes the price gate is not rounded below zero. -/
theorem nonneg_entryPrice (hkind : r.kind.isPriceBased = true) (hprice : .zero < r.price)
    (hentry : entryPrice r = .ok entry) : .zero ≤ entry := by
  rw [entryPrice, if_pos hkind] at hentry
  by_cases htick : r.tickSize ≤ .zero
  · rw [Decimal.roundToTick, if_pos htick] at hentry
    cases hentry
    exact Int.le_of_lt hprice
  · exact (Decimal.roundToTick_pos_iff hprice (Decimal.not_le.1 htick) hentry).1

/-- Entries whose strategy has no opinion on their stop.  Such an entry is accepted exactly if it
passes all the other gates and is on the side of zero where a stop at zero would protect it, and that is
the stop that it is given.  So a long entry at a positive price is accepted, and a short entry at a
limit never is. -/
theorem accepted_without_opinion_iff (htrailing : p.trailing = s.ratchet)
    (hentry : entryPrice r = .ok entry) (hnone : s.stop entry entry r.side.isLong = .ok none)
    (oco : String) (state : ρ) :
    ((p.build oco r state).Accepted ↔
      PassesSizing p state r ∧ (r.kind.isPriceBased = true → .zero < r.price) ∧
        if r.side.isLong then .zero < entry else entry < .zero) ∧
      (∀ plan, (p.build oco r state).plan = .ok plan → plan.accepted = true →
        ∃ order, plan.stopOrder = some order ∧ order.price = .zero) ∧
      (r.kind.isPriceBased = true → r.side.isLong = false → ¬(p.build oco r state).Accepted) := by
  have hstop := stopPrice_of_none htrailing hnone
  have haccepted : (p.build oco r state).Accepted ↔
      PassesSizing p state r ∧ (r.kind.isPriceBased = true → .zero < r.price) ∧
        r.Protects entry .zero := by
    rw [accepted_iff_passesSizing, Priced]
    constructor
    · rintro ⟨hsizing, hprice, entry', stop', hentry', hstop', hprotects⟩
      cases hentry.symm.trans hentry'
      cases hstop.symm.trans hstop'
      exact ⟨hsizing, hprice, hprotects⟩
    · rintro ⟨hsizing, hprice, hprotects⟩
      exact ⟨hsizing, hprice, entry, .zero, hentry, hstop, hprotects⟩
  refine ⟨haccepted, ?_, ?_⟩
  · intro plan hplan hmark
    rcases plan_build_cases hplan with ⟨reason, rfl⟩ | ⟨entry', stop', hpasses, -, rfl⟩
    · cases hmark
    · cases hentry.symm.trans hpasses.entering
      cases hstop.symm.trans hpasses.protecting
      exact ⟨_, rfl, rfl⟩
  · intro hkind hshort hplanned
    obtain ⟨-, hprice, hprotects⟩ := haccepted.1 hplanned
    have hnonneg := nonneg_entryPrice hkind (hprice hkind) hentry
    rw [EntryRequest.Protects, hshort] at hprotects
    exact absurd hnonneg (Decimal.not_le.2 hprotects)

/-- A short entry at a limit of 100, with a composite of two strategies that are both switched off, is
not accepted. -/
theorem accepted_without_opinion_iff_of_short :
    let s : StopStrategy := .composite [.ticks 0 .quarter, .percent .zero]
    let p := unguarded 2 s.ratchet
    let r : EntryRequest :=
      ⟨⟨⟨2025, 9, 2⟩, ⟨36000, 0, by decide, by decide⟩⟩, "ES", .short, .limit,
        .whole false 100 (by decide), .defaults, .quarter⟩
    ¬(p.build "g" r ()).Accepted := by
  intro s p r
  have hentry : entryPrice r = .ok ⟨false, 10000, 2, by decide, by decide⟩ := by decide +kernel
  obtain ⟨-, -, hshort⟩ :=
    accepted_without_opinion_iff (p := p) (s := s) rfl hentry (by decide +kernel) "g" ()
  exact hshort rfl rfl

/-- A long entry at a limit of 100 whose strategy takes a fraction of zero, and so has no opinion.  It is
accepted, and its protective order is a stop at zero. -/
theorem accepted_without_protection :
    let s : StopStrategy := .percent .zero
    let p := unguarded 2 s.ratchet
    let r : EntryRequest :=
      ⟨⟨⟨2025, 9, 2⟩, ⟨36000, 0, by decide, by decide⟩⟩, "ES", .long, .limit,
        .whole false 100 (by decide), .defaults, .one⟩
    s.stop r.price r.price true = .ok none ∧ entryPrice r = .ok r.price ∧
      ∃ plan order, (p.build "g" r ()).plan = .ok plan ∧ plan.accepted = true ∧
        plan.stopOrder = some order ∧ order.signalTag = protectTag ∧ order.price = .zero := by
  intro s p r
  refine ⟨by decide, by decide +kernel, orders r 2 r.price .zero "g", _, by decide +kernel, rfl, rfl,
    rfl, rfl⟩

end Planner
end EntryGate
