import EntryGate.Ledger
import EntryGate.Proofs.DecimalRounding
import EntryGate.Risk.Rule
import Mathlib.Data.List.Induction
import Mathlib.Order.Bounds.Defs

/-!
# The high-water mark

The highest equity of a ledger is what its name says: of the starting equity and the equities after
all events so far, the greatest.  Events that leave the equity alone need not raise it, and all others
do.  So the mark never falls, the equity is never above it, and a limit on the drawdown refuses
exactly if the equity is as far below the mark as the limit allows.

* `Ledger.Completes` says that no event of a history ends in a fault;
* `Ledger.equity_apply` is the step of one event, from which `Ledger.isGreatest_peakEquity` follows
  by induction on the history;
* `CapsRule.refusal_of_drawdownOnly` is what a limit on the drawdown alone does;
* `Ledger.peak_is_high_water` is the result.
-/

namespace EntryGate

open Text

/-! ## Limits on the drawdown -/

namespace RiskCaps

/-- The drawdown is limited, and nothing else. -/
structure DrawdownOnly (c : RiskCaps) : Prop where
  contracts : c.maxContracts = 0
  daily : c.dailyLossLimit ≤ .zero
  weekly : c.weeklyLossLimit ≤ .zero
  drawdown : .zero < c.trailingDrawdown

theorem lossReached_of_no_limit {limit : Decimal} (h : limit ≤ .zero) (pnl : Decimal) :
    lossReached limit pnl = false := by
  have hlimit : ¬.zero < limit := Decimal.not_lt.2 h
  simp [lossReached, hlimit]

theorem evaluate_of_drawdownOnly {c : RiskCaps} (h : c.DrawdownOnly) (s : RiskSnapshot) :
    c.evaluate s = s.drawdown >>= fun d =>
      .ok (if c.trailingDrawdown ≤ d then .blockTrailingDrawdown else .allow) := by
  have hcontracts : ¬(0 < c.maxContracts ∧ c.maxContracts < s.accountQuantity) := by
    rw [h.contracts]
    omega
  rw [evaluate, if_neg hcontracts, lossReached_of_no_limit h.daily,
    lossReached_of_no_limit h.weekly, if_pos h.drawdown]
  rfl

end RiskCaps

namespace CapsRule

/-- With a limit on the drawdown alone, the answer depends on the drawdown alone. -/
theorem refusal_of_drawdownOnly {c : CapsRule} (h : c.caps.DrawdownOnly) :
    c.refusal = c.snapshot.drawdown >>= fun d =>
      .ok (if c.caps.trailingDrawdown ≤ d then some "TrailingDrawdown" else none) := by
  rw [refusal, decision, RiskCaps.evaluate_of_drawdownOnly h]
  cases c.snapshot.drawdown with
  | error fault => rfl
  | ok d =>
    by_cases hd : c.caps.trailingDrawdown ≤ d
    · simp only [bind, Except.bind, if_pos hd]
      rfl
    · simp only [bind, Except.bind, if_neg hd]
      rfl

theorem refusal_eq_some_iff {c : CapsRule} (h : c.caps.DrawdownOnly) {reason : String} :
    c.refusal = .ok (some reason) ↔ reason = "TrailingDrawdown" ∧
      ∃ d, c.snapshot.drawdown = .ok d ∧ c.caps.trailingDrawdown ≤ d := by
  rw [refusal_of_drawdownOnly h, Fault.bind_eq_ok]
  constructor
  · rintro ⟨d, hd, hanswer⟩
    split at hanswer
    · next hreached =>
      cases hanswer
      exact ⟨rfl, d, hd, hreached⟩
    · cases hanswer
  · rintro ⟨rfl, d, hd, hreached⟩
    exact ⟨d, hd, by rw [if_pos hreached]⟩

theorem refusal_eq_none_iff_lt {c : CapsRule} (h : c.caps.DrawdownOnly) :
    c.refusal = .ok none ↔
      ∃ d, c.snapshot.drawdown = .ok d ∧ d < c.caps.trailingDrawdown := by
  rw [refusal_of_drawdownOnly h, Fault.bind_eq_ok]
  constructor
  · rintro ⟨d, hd, hanswer⟩
    split at hanswer
    · cases hanswer
    · next hreached => exact ⟨d, hd, Decimal.not_le.1 hreached⟩
  · rintro ⟨d, hd, hbelow⟩
    exact ⟨d, hd, by rw [if_neg (Decimal.not_le.2 hbelow)]⟩

end CapsRule

namespace Ledger

variable {order : BookOrder}

/-! ## Histories -/

/-- No event of a history ends in a fault. -/
def Completes : Ledger order → List LedgerEvent → Prop
  | _, [] => True
  | l, e :: rest => (l.apply e).2 = .ok () ∧ Completes (l.apply e).1 rest

/-- The equities along a history: the one at the start, and the ones after every event. -/
def equitiesAlong (order : BookOrder) (start : Decimal) (events : List LedgerEvent) : Set Decimal :=
  {x | x = start ∨
    ∃ done, done <+: events ∧ done ≠ [] ∧ ((new order start).run done).equity = .ok x}

theorem run_append (l : Ledger order) (events : List LedgerEvent) (e : LedgerEvent) :
    l.run (events ++ [e]) = ((l.run events).apply e).1 := by
  rw [run, List.foldl_append]
  rfl

theorem completes_append {l : Ledger order} {events more : List LedgerEvent} :
    l.Completes (events ++ more) ↔ l.Completes events ∧ (l.run events).Completes more := by
  induction events generalizing l with
  | nil => simp [Completes, run]
  | cons e rest ih =>
    rw [List.cons_append, Completes, Completes, ih, and_assoc]
    rfl

theorem Completes.of_prefix {l : Ledger order} {done events : List LedgerEvent}
    (h : l.Completes events) (hdone : done <+: events) : l.Completes done := by
  obtain ⟨rest, rfl⟩ := hdone
  exact (completes_append.1 h).1

theorem equitiesAlong_mono {start : Decimal} {done events : List LedgerEvent}
    (h : done <+: events) : equitiesAlong order start done ⊆ equitiesAlong order start events := by
  rintro x (hstart | ⟨first, hfirst, hsome, hx⟩)
  · exact .inl hstart
  · exact .inr ⟨first, hfirst.trans h, hsome, hx⟩

theorem mem_equitiesAlong_append {start x : Decimal} {events : List LedgerEvent}
    {e : LedgerEvent} :
    x ∈ equitiesAlong order start (events ++ [e]) ↔
      x ∈ equitiesAlong order start events ∨
        ((new order start).run (events ++ [e])).equity = .ok x := by
  constructor
  · rintro (hstart | ⟨done, hdone, hsome, hx⟩)
    · exact .inl (.inl hstart)
    · rcases List.prefix_concat_iff.1 hdone with rfl | hdone
      · exact .inr hx
      · exact .inl (.inr ⟨done, hdone, hsome, hx⟩)
  · rintro (hx | hx)
    · exact equitiesAlong_mono (List.prefix_append events [e]) hx
    · exact .inr ⟨_, List.prefix_rfl, by simp, hx⟩

/-! ## One event -/

theorem raisePeak_of_ok {l : Ledger order} (h : l.raisePeak.2 = .ok ()) :
    ∃ e, l.raisePeak.1.equity = .ok e ∧ l.raisePeak.1.peakEquity = l.peakEquity.max e := by
  rw [raisePeak] at h ⊢
  cases hequity : l.equity with
  | error fault =>
    rw [hequity] at h
    cases h
  | ok e =>
    refine ⟨e, ?_⟩
    rw [Decimal.max]
    by_cases hraise : l.peakEquity < e
    · simp only [if_pos hraise, and_true]
      exact hequity
    · simp only [if_neg hraise, and_true]
      exact hequity

theorem addResult_of_ok {l : Ledger order} {result : Decimal} (h : (l.addResult result).2 = .ok ()) :
    ∃ e, (l.addResult result).1.equity = .ok e ∧
      (l.addResult result).1.peakEquity = l.peakEquity.max e := by
  simp only [addResult] at h ⊢
  cases hday : l.dailyPnl.add result with
  | error fault =>
    rw [hday] at h
    cases h
  | ok daily =>
    rw [hday] at h
    cases hweek : l.weeklyPnl.add result with
    | error fault =>
      simp only [hweek] at h
      cases h
    | ok weekly =>
      simp only [hweek] at h ⊢
      exact raisePeak_of_ok h

/-- An event that is carried out leaves an equity, and the mark at the greater of the one before and
that equity.  Where an event does not raise the mark, the equity is as before, and was not above
it. -/
theorem equity_apply {l : Ledger order} {before : Decimal} (hequity : l.equity = .ok before)
    (hpeak : before ≤ l.peakEquity) {event : LedgerEvent} (h : (l.apply event).2 = .ok ()) :
    ∃ e, (l.apply event).1.equity = .ok e ∧ (l.apply event).1.peakEquity = l.peakEquity.max e := by
  have hquiet : l.peakEquity = l.peakEquity.max before := (Decimal.max_eq_left hpeak).symm
  cases event with
  | fill symbol isBuy quantity price pointValue =>
    rw [apply, fill] at h ⊢
    split
    · exact ⟨before, hequity, hquiet⟩
    · next hquantity =>
      rw [if_neg hquantity] at h
      split at h
      · cases h
      · exact addResult_of_ok h
  | mark symbol price =>
    rw [apply, mark] at h ⊢
    split
    · exact ⟨before, hequity, hquiet⟩
    · next b hbook =>
      rw [hbook] at h
      exact raisePeak_of_ok h
  | resetDay => exact ⟨before, hequity, hquiet⟩
  | resetWeek => exact ⟨before, hequity, hquiet⟩

/-! ## Whole histories -/

/-- After a history without faults there is an equity, not above the mark, and the mark is the
greatest of all equities so far. -/
theorem isGreatest_peakEquity {start : Decimal} {events : List LedgerEvent}
    (h : (new order start).Completes events) :
    (∃ e, ((new order start).run events).equity = .ok e ∧
        e ≤ ((new order start).run events).peakEquity) ∧
      IsGreatest (equitiesAlong order start events) ((new order start).run events).peakEquity := by
  -- the last event is added to what holds of the history before it
  induction events using List.reverseRecOn with
  | nil =>
    refine ⟨⟨start, equity_new start, Int.le_refl _⟩, .inl rfl, ?_⟩
    rintro x (rfl | ⟨done, hdone, hsome, -⟩)
    · exact Int.le_refl _
    · exact absurd (List.prefix_nil.1 hdone) hsome
  | append_singleton events event ih =>
    obtain ⟨hbefore, hevent, -⟩ := completes_append.1 h
    obtain ⟨⟨before, hequity, hle⟩, hmem, hupper⟩ := ih hbefore
    obtain ⟨e, he, hpeak⟩ := equity_apply hequity hle hevent
    rw [← run_append] at he hpeak
    rw [hpeak]
    refine ⟨⟨e, he, Decimal.le_max_right _ e⟩, ?_, ?_⟩
    · -- the mark is the one before, or the equity after the event
      rw [mem_equitiesAlong_append]
      rcases Decimal.max_eq_or ((new order start).run events).peakEquity e with hmax | hmax
      · rw [hmax]
        exact .inl hmem
      · rw [hmax]
        exact .inr he
    · intro x hx
      rcases mem_equitiesAlong_append.1 hx with hx | hx
      · exact Int.le_trans (hupper hx) (Decimal.le_max_left _ e)
      · rw [he] at hx
        cases hx
        exact Decimal.le_max_right _ e

/-- The high-water mark, after every history without faults.  There has been an equity all along, the
highest equity is the greatest of them all, and it never fell.  The ledger has a snapshot whose
drawdown is not negative, and caps that limit the drawdown alone refuse exactly if the mark is at
least that much above the equity. -/
theorem peak_is_high_water {start : Decimal} {events : List LedgerEvent}
    (h : (new order start).Completes events) :
    let l := (new order start).run events
    (∀ done, done <+: events → ∃ e, ((new order start).run done).equity = .ok e) ∧
      IsGreatest (equitiesAlong order start events) l.peakEquity ∧
      (∀ done, done <+: events → ((new order start).run done).peakEquity ≤ l.peakEquity) ∧
      ∃ e s, l.equity = .ok e ∧ l.snapshot = .ok s ∧
        (∀ d, s.drawdown = .ok d → .zero ≤ d) ∧
        ∀ caps : RiskCaps, caps.DrawdownOnly →
          (∀ reason, (CapsRule.mk caps s).refusal = .ok (some reason) ↔
            reason = "TrailingDrawdown" ∧
              ∃ d, l.peakEquity.sub e = .ok d ∧ caps.trailingDrawdown ≤ d) ∧
          ((CapsRule.mk caps s).refusal = .ok none ↔
            ∃ d, l.peakEquity.sub e = .ok d ∧ d < caps.trailingDrawdown) := by
  intro l
  obtain ⟨⟨e, hequity, hle⟩, hgreatest⟩ := isGreatest_peakEquity h
  have hsnapshot : l.snapshot =
      .ok ⟨min l.contracts.toNat Count.max, e, l.peakEquity, l.dailyPnl, l.weeklyPnl⟩ := by
    rw [snapshot, hequity]
    rfl
  refine ⟨?_, hgreatest, ?_, e, _, hequity, hsnapshot, ?_, ?_⟩
  · intro done hdone
    obtain ⟨⟨e, he, -⟩, -⟩ := isGreatest_peakEquity (h.of_prefix hdone)
    exact ⟨e, he⟩
  · intro done hdone
    -- the mark of a part of the history is an equity of the whole history
    obtain ⟨-, hmem, -⟩ := isGreatest_peakEquity (h.of_prefix hdone)
    exact hgreatest.2 (equitiesAlong_mono hdone hmem)
  · intro d hd
    exact Decimal.nonneg_of_sub hle hd
  · intro caps hcaps
    refine ⟨fun reason => ?_, ?_⟩
    · exact CapsRule.refusal_eq_some_iff (c := ⟨caps, _⟩) hcaps
    · exact CapsRule.refusal_eq_none_iff_lt (c := ⟨caps, _⟩) hcaps

/-- An account of 1000 that buys two contracts at 100, sees them at 110 and then at 95: the mark is
1020 and the equity 990, and so a limit of 30 on the drawdown refuses. -/
theorem peak_is_high_water_of_setback :
    let start : Decimal := .whole false 1000 (by decide)
    let events : List LedgerEvent :=
      [ .fill "ES" true 2 (.whole false 100 (by decide)) .one,
        .mark "ES" (.whole false 110 (by decide)),
        .resetDay,
        .mark "es" (.whole false 95 (by decide)) ]
    let caps : RiskCaps := ⟨0, .zero, .zero, .whole false 30 (by decide)⟩
    let l := (new .opened start).run events
    IsGreatest (equitiesAlong .opened start events) (.whole false 1020 (by decide)) ∧
      ∃ s, l.snapshot = .ok s ∧
        (CapsRule.mk caps s).refusal = .ok (some "TrailingDrawdown") := by
  intro start events caps l
  have hcompletes : (new .opened start).Completes events := by
    refine ⟨?_, ?_, ?_, ?_, trivial⟩ <;> decide +kernel
  have hpeak : l.peakEquity = .whole false 1020 (by decide) := by decide +kernel
  have hequity : l.equity = .ok (.whole false 990 (by decide)) := by decide +kernel
  obtain ⟨-, hgreatest, -, e, s, he, hs, -, hcaps⟩ := peak_is_high_water hcompletes
  refine ⟨hpeak ▸ hgreatest, s, hs, ?_⟩
  cases hequity.symm.trans he
  have honly : caps.DrawdownOnly := ⟨rfl, by decide, by decide, by decide⟩
  refine ((hcaps caps honly).1 _).2 ⟨rfl, .whole false 30 (by decide), ?_, Int.le_refl _⟩
  decide +kernel

end Ledger
end EntryGate
