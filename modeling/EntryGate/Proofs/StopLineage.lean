import EntryGate.Stop.Tracker
import Mathlib.Data.List.Chain

/-!
# Lineages of stops

The stops that a tracker returns, one after the other, whatever computes or proposes them.  A stop
that is positive binds the next one, which is never worse.  A stop that is not positive binds
nothing: it is taken for the absence of a stop, and the next one is whatever is proposed.

* `StopTracker.returned` is the lineage of a run;
* `StopTracker.lineage_no_worse_of_pos` says where the rule of not giving ground holds, and that it
  holds nowhere else;
* `StopTracker.lineage_loosens_below_zero` is a lineage that gives ground, with prices that are
  all positive.
-/

namespace EntryGate

/-- Whether a stop is at least as tight as another one: not below it for a long position, and not
above it for a short one. -/
def NoWorse : Bool → Decimal → Decimal → Prop
  | true, stop, next => stop ≤ next
  | false, stop, next => next ≤ stop

instance : ∀ (isLong : Bool) (stop next : Decimal), Decidable (NoWorse isLong stop next)
  | true, stop, next => inferInstanceAs (Decidable (stop ≤ next))
  | false, stop, next => inferInstanceAs (Decidable (next ≤ stop))

/-- A positive stop is never loosened. -/
theorem noWorse_tighten {prior : Decimal} (h : .zero < prior) (isLong : Bool)
    (candidate : Decimal) : NoWorse isLong prior (tighten isLong prior candidate) := by
  have hprior : ¬prior ≤ .zero := Decimal.not_le.2 h
  rw [tighten, if_neg hprior]
  cases isLong with
  | true =>
    rw [if_pos rfl, NoWorse, Decimal.le_iff_units, Decimal.units_max]
    exact Int.le_max_left _ _
  | false =>
    rw [if_neg Bool.false_ne_true, NoWorse, Decimal.le_iff_units, Decimal.units_min]
    exact Int.min_le_left _ _

/-- A stop that is not positive gives way to any candidate. -/
theorem tighten_of_not_pos {prior : Decimal} (h : ¬.zero < prior) (isLong : Bool)
    (candidate : Decimal) : tighten isLong prior candidate = candidate := by
  rw [tighten, if_pos (Decimal.not_lt.1 h)]

namespace StopTracker

/-! ## Runs -/

/-- What can be done with a tracker. -/
inductive Action where
  | update (trailing : Trailing) (price : Decimal)
  | propose (stop : Decimal)

/-- The tracker after an action, and the stop that it returns. -/
def act (t : StopTracker) : Action → StopTracker × Except Fault Decimal
  | .update trailing price => t.update trailing price
  | .propose stop => ((t.propose stop).1, .ok (t.propose stop).2)

def run (t : StopTracker) (actions : List Action) : StopTracker :=
  actions.foldl (fun t a => (t.act a).1) t

/-- The stops that a run returns, in order.  An action that ends in a fault returns none. -/
def returned : StopTracker → List Action → List Decimal
  | _, [] => []
  | t, a :: rest =>
    match (t.act a).2 with
    | .ok stop => stop :: returned (t.act a).1 rest
    | .error _ => returned (t.act a).1 rest

/-! ## One action -/

theorem prior_of_none {t : StopTracker} (h : t.stop = none) : t.prior = .zero := by
  rw [prior, h, Option.getD_none]

theorem prior_of_some {t : StopTracker} {stop : Decimal} (h : t.stop = some stop) :
    t.prior = stop := by
  rw [prior, h, Option.getD_some]

/-- A stop that is returned is a candidate held against the stop before, and the one that is kept. -/
theorem act_of_ok {t : StopTracker} {a : Action} {stop : Decimal} (h : (t.act a).2 = .ok stop) :
    (∃ candidate, stop = tighten t.isLong t.prior candidate) ∧
      (t.act a).1 = { t with stop := some stop } := by
  cases a with
  | propose proposed =>
    cases h
    exact ⟨⟨proposed, rfl⟩, rfl⟩
  | update trailing price =>
    simp only [act, update] at h ⊢
    cases hnext : trailing.stop ⟨t.entry, price, t.isLong, t.profile, t.prior⟩ with
    | ok next =>
      rw [hnext] at h
      cases h
      exact ⟨⟨next, rfl⟩, rfl⟩
    | error fault =>
      rw [hnext] at h
      cases h

/-- A fault leaves the tracker as it is. -/
theorem act_of_error {t : StopTracker} {a : Action} {fault : Fault}
    (h : (t.act a).2 = .error fault) : (t.act a).1 = t := by
  cases a with
  | propose proposed => cases h
  | update trailing price =>
    simp only [act, update] at h ⊢
    cases hnext : trailing.stop ⟨t.entry, price, t.isLong, t.profile, t.prior⟩ with
    | ok next =>
      rw [hnext] at h
      cases h
    | error fault => rfl

theorem isLong_act (t : StopTracker) (a : Action) : (t.act a).1.isLong = t.isLong := by
  cases h : (t.act a).2 with
  | ok stop => rw [(act_of_ok h).2]
  | error fault => rw [act_of_error h]

theorem isLong_run (t : StopTracker) (actions : List Action) :
    (t.run actions).isLong = t.isLong := by
  induction actions generalizing t with
  | nil => rfl
  | cons a rest ih => exact (ih (t.act a).1).trans (t.isLong_act a)

/-- The stop that an action returns is no worse than a positive stop before it. -/
theorem noWorse_act {t : StopTracker} {a : Action} {stop next : Decimal} (hstop : t.stop = some stop)
    (hpos : .zero < stop) (h : (t.act a).2 = .ok next) : NoWorse t.isLong stop next := by
  obtain ⟨⟨candidate, rfl⟩, -⟩ := act_of_ok h
  rw [prior_of_some hstop]
  exact noWorse_tighten hpos t.isLong candidate

/-- What follows a stop is no worse whatever is done next, exactly if the stop is positive or there
is no worse one at all. -/
theorem forall_noWorse_act_iff {t : StopTracker} {stop : Decimal} (hstop : t.stop = some stop) :
    (∀ a next, (t.act a).2 = .ok next → NoWorse t.isLong stop next) ↔
      .zero < stop ∨ ∀ x, NoWorse t.isLong stop x := by
  constructor
  · intro hall
    by_cases hpos : .zero < stop
    · exact .inl hpos
    · right
      intro x
      -- a proposal of `x` is taken as it is, since the stop counts as none
      have htaken : (t.act (.propose x)).2 = .ok x := by
        rw [act, propose, prior_of_some hstop, tighten_of_not_pos hpos]
      exact hall (.propose x) x htaken
  · rintro (hpos | hleast) a next h
    · exact noWorse_act hstop hpos h
    · exact hleast next

/-! ## Whole runs -/

/-- Along a run, every stop that follows a positive one is no worse; the stop with which the run
starts, if there is one, counts as the first. -/
theorem isChain_returned (t : StopTracker) (actions : List Action) :
    (t.stop.toList ++ t.returned actions).IsChain
      fun stop next => .zero < stop → NoWorse t.isLong stop next := by
  induction actions generalizing t with
  | nil =>
    rw [returned, List.append_nil]
    cases t.stop with
    | none => exact .nil
    | some stop => exact .singleton stop
  | cons a rest ih =>
    have hrest := ih (t.act a).1
    rw [isLong_act] at hrest
    cases h : (t.act a).2 with
    | error fault =>
      rw [act_of_error h] at hrest
      simp only [returned, h, act_of_error h]
      exact hrest
    | ok next =>
      -- the stop that is returned is the one with which the rest of the run starts
      rw [(act_of_ok h).2, Option.toList_some] at hrest
      simp only [returned, h, (act_of_ok h).2]
      cases hstop : t.stop with
      | none => exact hrest
      | some stop => exact .cons_cons (fun hpos => noWorse_act hstop hpos h) hrest

/-- The rule of not giving ground, with the exact condition for it.  In every lineage the stop after
a positive one is no worse; and at the end of every run the next stop is no worse, whatever is done,
exactly if the last one is positive, or is the worst that there is. -/
theorem lineage_no_worse_of_pos (t : StopTracker) (actions : List Action) :
    ((t.stop.toList ++ t.returned actions).IsChain
        fun stop next => .zero < stop → NoWorse t.isLong stop next) ∧
      ∀ stop, (t.run actions).stop = some stop →
        ((∀ a next, ((t.run actions).act a).2 = .ok next → NoWorse t.isLong stop next) ↔
          .zero < stop ∨ ∀ x, NoWorse t.isLong stop x) := by
  refine ⟨isChain_returned t actions, ?_⟩
  intro stop hstop
  rw [← isLong_run t actions]
  exact forall_noWorse_act_iff hstop

/-- A short position whose stop of 52 is to be moved to 53 and then to 51: it stays, falls to 51,
and no action will bring it above 51 again. -/
theorem lineage_no_worse_of_pos_short :
    let t := (new false (.whole false 50 (by decide)) .defaults).withStop (.whole false 52 (by decide))
    let actions : List Action :=
      [.propose (.whole false 53 (by decide)), .propose (.whole false 51 (by decide))]
    t.returned actions = [.whole false 52 (by decide), .whole false 51 (by decide)] ∧
      ∀ a next, ((t.run actions).act a).2 = .ok next →
        NoWorse false (.whole false 51 (by decide)) next := by
  intro t actions
  have hstop : (t.run actions).stop = some (.whole false 51 (by decide)) := by decide
  obtain ⟨-, hexact⟩ := lineage_no_worse_of_pos t actions
  refine ⟨by decide, (hexact _ hstop).2 (.inl ?_)⟩
  decide

/-- A lineage that gives ground.  The position was entered at 5, the distance is 10 and the prices
are 8 and 5: the first stop is -2, and since that is not positive the second one is -5. -/
theorem lineage_loosens_below_zero :
    let t := new true (.whole false 5 (by decide)) .defaults
    let trailing := (FixedDistance.mk .one).trailing
    t.returned
        [ .update trailing (.whole false 8 (by decide)),
          .update trailing (.whole false 5 (by decide)) ] =
      [.whole true 2 (by decide), .whole true 5 (by decide)] ∧
      ¬NoWorse t.isLong (.whole true 2 (by decide)) (.whole true 5 (by decide)) := by
  refine ⟨by decide, ?_⟩
  exact Decimal.not_le.2 (by decide)

end StopTracker
end EntryGate
