import EntryGate.Proofs.GateHistory
import EntryGate.Proofs.RulePolling

/-!
# What a request leaves behind

To plan an entry is to ask the risk rules, and a question can lift a lockout that has expired.  This
is all that a request changes apart from the log, whichever gate decides on it in the end.

* `Rule.evaluate_evaluate` says of every tree of rules that asking twice is asking once;
* `EntryPlan.unlabelled` is a plan without the identifier of its orders, and
  `Planner.unlabelled_build` says that the rest of it depends on the answer of the risk rules only;
* `Gate.Lifts` says when a request lifts the lockout of a gate, and `Gate.plan_fst_eq` what becomes of
  the gate;
* `Gate.plan_footprint` puts these together for a request and its repetition.
-/

namespace EntryGate

/-! ## Asking twice -/

namespace Lockout

theorem evaluate_evaluate (l : Lockout) (now : Instant) (intent : PositionIntent) :
    (l.evaluate now intent).1.evaluate now intent = l.evaluate now intent := by
  rw [evaluate_fst]
  by_cases hsymbol : intent.symbol.isEmpty = true
  · rw [if_pos hsymbol]
  · -- the first question has lifted what there was to lift
    rw [if_neg hsymbol, evaluate, evaluate, if_neg hsymbol, if_neg hsymbol, poll_refresh]

end Lockout

namespace Rule

mutual

/-- The second time a tree is asked, it gives the same answer and does not change. -/
theorem evaluate_evaluate (now : Instant) (intent : PositionIntent) (r : Rule) :
    evaluate now intent (evaluate now intent r).1 = evaluate now intent r := by
  cases r with
  | lockout l => simp only [evaluate, l.evaluate_evaluate now intent]
  | caps c => rfl
  | guard g => rfl
  | switch flags inner =>
    cases hswitch : flags.refusal? with
    | some reason => simp only [evaluate, hswitch]
    | none => simp only [evaluate, hswitch, evaluate_evaluate now intent inner]
  | chain mode rules => simp only [evaluate, evaluateAll_evaluateAll now intent rules]

theorem evaluateAll_evaluateAll (now : Instant) (intent : PositionIntent) (rules : List Rule) :
    evaluateAll now intent (evaluateAll now intent rules).1 = evaluateAll now intent rules := by
  cases rules with
  | nil => rfl
  | cons r rs =>
    have hr := evaluate_evaluate now intent r
    have hrs := evaluateAll_evaluateAll now intent rs
    rcases hanswer : evaluate now intent r with ⟨r', fault | _ | reason⟩
    · rw [hanswer] at hr
      simp only [evaluateAll, hanswer, hr]
    · rw [hanswer] at hr
      simp only [evaluateAll, hanswer, hr, hrs]
    · -- the rules after a refusal were not asked, and are not asked again
      rw [hanswer] at hr
      simp only [evaluateAll, hanswer, hr]

end

end Rule

/-! ## Plans and their identifiers -/

/-- An order without the identifier of its group. -/
def OrderIntent.unlabelled (o : OrderIntent) : OrderIntent :=
  { o with ocoGroup := "" }

/-- A plan without the identifier that its orders share. -/
def EntryPlan.unlabelled (p : EntryPlan) : EntryPlan :=
  { p with
    entryOrder := p.entryOrder.map OrderIntent.unlabelled
    stopOrder := p.stopOrder.map OrderIntent.unlabelled
    ocoGroup := "" }

namespace Planner

variable {ρ : Type}

/-- The plan that a verdict stands for. -/
def Verdict.plan : Verdict → EntryPlan
  | .reject _ reason => .rejected reason
  | .accept plan => plan

/-- The plan of a request that no session window blocks and that has a quantity. -/
theorem plan_afterRisk {p : Planner ρ} {r : EntryRequest}
    (hopen : p.session.blocking? r.symbol r.now = none)
    (hquantity : (p.sizer.decide r.intent p.mode).quantity ≠ 0) (oco : String) (state : ρ) :
    (p.afterRisk oco r state).plan =
      (p.priceOrders oco r (p.sizer.decide r.intent p.mode).quantity).map Verdict.plan := by
  simp only [afterRisk, hopen, hquantity, if_false]
  rcases p.priceOrders oco r (p.sizer.decide r.intent p.mode).quantity with
    fault | ⟨gate, reason⟩ | plan
  · rfl
  · rfl
  · rfl

theorem unlabelled_priceOrders (p : Planner ρ) (oco oco' : String) (r : EntryRequest)
    (quantity : Nat) :
    ((p.priceOrders oco' r quantity).map Verdict.plan).map EntryPlan.unlabelled =
      ((p.priceOrders oco r quantity).map Verdict.plan).map EntryPlan.unlabelled := by
  rw [priceOrders, priceOrders]
  by_cases hprice : r.kind.isPriceBased = true ∧ r.price ≤ .zero
  · rw [if_pos hprice, if_pos hprice]
  · rw [if_neg hprice, if_neg hprice]
    cases entryPrice r with
    | error fault => rfl
    | ok entry =>
      cases hstop : p.stopPrice r entry with
      | error fault => simp only [hstop, bind, Except.bind]
      | ok stop =>
        -- the side of the stop decides, and the identifier stands in the orders alone
        simp only [hstop, bind, Except.bind, pure, Except.pure]
        by_cases hlong : r.side.isLong = true ∧ entry ≤ stop
        · rw [if_pos hlong, if_pos hlong]
        · rw [if_neg hlong, if_neg hlong]
          by_cases hshort : ¬r.side.isLong = true ∧ stop ≤ entry
          · rw [if_pos hshort, if_pos hshort]
          · rw [if_neg hshort, if_neg hshort]
            rfl

theorem unlabelled_afterRisk (p : Planner ρ) (oco oco' : String) (r : EntryRequest)
    (state state' : ρ) :
    (p.afterRisk oco' r state').plan.map EntryPlan.unlabelled =
      (p.afterRisk oco r state).plan.map EntryPlan.unlabelled := by
  cases hblock : p.session.blocking? r.symbol r.now with
  | some block =>
    rw [afterRisk, afterRisk, hblock]
  | none =>
    by_cases hzero : (p.sizer.decide r.intent p.mode).quantity = 0
    · simp only [afterRisk, hblock, hzero, if_true]
      rfl
    · rw [plan_afterRisk hblock hzero, plan_afterRisk hblock hzero]
      exact p.unlabelled_priceOrders oco oco' r _

/-- The rest of a plan depends on the answer of the risk rules, and on nothing else of their state. -/
theorem unlabelled_build (p : Planner ρ) (oco oco' : String) (r : EntryRequest) {state state' : ρ}
    (h : r.intent.isTradeable = true → (p.risk state' r.intent).2 = (p.risk state r.intent).2) :
    (p.build oco' r state').plan.map EntryPlan.unlabelled =
      (p.build oco r state).plan.map EntryPlan.unlabelled := by
  rw [build, build]
  by_cases hsymbol : r.symbol.isEmpty = true
  · rw [if_pos hsymbol, if_pos hsymbol]
    rfl
  · rw [if_neg hsymbol, if_neg hsymbol]
    by_cases hflat : r.side.isFlat = true
    · rw [if_pos hflat, if_pos hflat]
      rfl
    · rw [if_neg hflat, if_neg hflat]
      have hanswers := h (by simp [PositionIntent.isTradeable, EntryRequest.intent, hsymbol, hflat])
      rcases hrisk : p.risk state r.intent with ⟨next, answer⟩
      rcases hrisk' : p.risk state' r.intent with ⟨next', answer'⟩
      rw [hrisk, hrisk'] at hanswers
      cases hanswers
      rcases answer with fault | _ | reason
      · rfl
      · exact p.unlabelled_afterRisk oco oco' r next next'
      · rfl

end Planner

/-! ## One request -/

theorem EntryRequest.isTradeable_iff {r : EntryRequest} :
    r.intent.isTradeable = true ↔ r.symbol ≠ "" ∧ r.side ≠ .flat := by
  simp [PositionIntent.isTradeable, intent, Side.isFlat]

theorem SwitchFlags.isBlocked_eq_false_iff {f : SwitchFlags} :
    f.isBlocked = false ↔ f.enabled = true ∧ f.manualLockout = false := by
  rw [isBlocked, Option.isSome_eq_false_iff, Option.isNone_iff_eq_none, refusal?_eq_none_iff]

namespace Gate

/-- When a request lifts the lockout: it names a symbol and a side, the switch lets the question
through, and the lockout has expired. -/
structure Lifts (g : Gate) (r : EntryRequest) : Prop where
  symbol : r.symbol ≠ ""
  side : r.side ≠ .flat
  enabled : g.switch.enabled = true
  manual : g.switch.manualLockout = false
  expired : ∃ t, g.lockout.phase = .lockedOut t ∧ t ≤ g.now

/-- The lockout after a request.  It is asked if there is an intent and the switch is not in the
way. -/
def lockoutAfter (g : Gate) (r : EntryRequest) : Lockout :=
  if r.intent.isTradeable = true ∧ g.switch.isBlocked = false then g.lockout.refresh g.now
  else g.lockout

/-- A request that lifts the lockout leaves it clear and without a streak. -/
theorem lockoutAfter_of_lifts {g : Gate} {r : EntryRequest} (h : g.Lifts r) :
    g.lockoutAfter r = { g.lockout with phase := .clear, streak := 0 } := by
  obtain ⟨t, hphase, hexpired⟩ := h.expired
  have hasked : r.intent.isTradeable = true ∧ g.switch.isBlocked = false :=
    ⟨EntryRequest.isTradeable_iff.2 ⟨h.symbol, h.side⟩,
      SwitchFlags.isBlocked_eq_false_iff.2 ⟨h.enabled, h.manual⟩⟩
  rw [lockoutAfter, if_pos hasked, Lockout.refresh, hphase]
  exact if_pos hexpired

/-- Any other request leaves the lockout as it is. -/
theorem lockoutAfter_of_not_lifts {g : Gate} {r : EntryRequest} (h : ¬g.Lifts r) :
    g.lockoutAfter r = g.lockout := by
  rw [lockoutAfter]
  split
  · next hasked =>
    obtain ⟨htradeable, hfree⟩ := hasked
    obtain ⟨hsymbol, hside⟩ := EntryRequest.isTradeable_iff.1 htradeable
    obtain ⟨henabled, hmanual⟩ := SwitchFlags.isBlocked_eq_false_iff.1 hfree
    -- what is missing for the lockout to be lifted is that it has expired
    have hlasts : ¬∃ t, g.lockout.phase = .lockedOut t ∧ t ≤ g.now := by
      intro hexpired
      exact h ⟨hsymbol, hside, henabled, hmanual, hexpired⟩
    rw [Lockout.refresh]
    split
    · next t hphase =>
      rw [if_neg fun hexpired => hlasts ⟨t, hphase, hexpired⟩]
    · rfl
  · rfl

theorem evaluate_of_tradeable (g : Gate) {r : EntryRequest} (h : r.intent.isTradeable = true) :
    (g.evaluate r.intent).1 = { g with lockout := g.lockoutAfter r } := by
  have hsymbol : ¬r.intent.symbol.isEmpty = true := by
    intro hempty
    exact (EntryRequest.isTradeable_iff.1 h).1 (String.isEmpty_iff.1 hempty)
  rw [evaluate_fst, lockoutAfter, Lockout.evaluate_fst, if_neg hsymbol]
  cases hblocked : g.switch.isBlocked with
  | true => simp
  | false => simp [h]

/-- A request changes the lockout as said, and otherwise the log alone. -/
theorem plan_fst_eq (g : Gate) (oco : String) (r : EntryRequest) :
    ∃ log, (g.plan oco r).1 = { g with lockout := g.lockoutAfter r, log := log } := by
  have hstate : (g.planner.build oco r g).state = { g with lockout := g.lockoutAfter r } := by
    rw [Planner.state_build]
    by_cases htradeable : r.intent.isTradeable = true
    · rw [if_pos htradeable]
      exact g.evaluate_of_tradeable htradeable
    · rw [if_neg htradeable, lockoutAfter, if_neg fun h => htradeable h.1]
  refine ⟨((g.planner.build oco r g).state.captureAll (g.planner.build oco r g).events).log, ?_⟩
  rw [plan, captureAll, hstate]

/-! ## The same request again -/

theorem lockoutAfter_again (g : Gate) (r : EntryRequest) (log : Option FilteredLog) :
    lockoutAfter { g with lockout := g.lockoutAfter r, log := log } r = g.lockoutAfter r := by
  by_cases hasked : r.intent.isTradeable = true ∧ g.switch.isBlocked = false
  · simp only [lockoutAfter, hasked, and_self, if_true, Lockout.refresh_refresh]
  · simp only [lockoutAfter, hasked, if_false]

/-- The rules of a gate after a question are the rules that were asked. -/
theorem rule_evaluate (g : Gate) (intent : PositionIntent) :
    (g.evaluate intent).1.rule = (g.rule.evaluate g.now intent).1 := by
  rw [evaluate_fst, SwitchFlags.isBlocked]
  cases hswitch : g.switch.refusal? with
  | some reason => simp [rule, Rule.evaluate, hswitch]
  | none =>
    obtain ⟨hrules, -⟩ := g.evaluateAll_rules intent
    simp only [rule, Rule.evaluate, hswitch, hrules]
    rfl

theorem evaluate_again (g : Gate) (intent : PositionIntent) :
    ((g.evaluate intent).1.evaluate intent).2 = (g.evaluate intent).2 := by
  have hnow : (g.evaluate intent).1.now = g.now := by
    rw [evaluate_fst]
    split <;> rfl
  calc
    ((g.evaluate intent).1.evaluate intent).2
        = ((g.evaluate intent).1.rule.evaluate (g.evaluate intent).1.now intent).2 := rfl
    _ = (Rule.evaluate g.now intent (g.rule.evaluate g.now intent).1).2 := by
          rw [rule_evaluate, hnow]
    _ = (g.rule.evaluate g.now intent).2 := by rw [Rule.evaluate_evaluate]

/-- A request leaves the snapshot, the switch and the guard as they are.  It changes the lockout
exactly if the intent and the switch let the question through to a lockout that has expired, which
is then clear and without a streak, whatever the later gates decide.  The same request at the same
time gets the same plan again, but for the identifier, and changes none of the rules. -/
theorem plan_footprint (g : Gate) (oco : String) (r : EntryRequest) :
    let g' := (g.plan oco r).1
    (g'.snapshot = g.snapshot ∧ g'.switch = g.switch ∧ g'.lossGuard = g.lossGuard ∧
        g'.now = g.now) ∧
      (g'.lockout ≠ g.lockout ↔ g.Lifts r) ∧
      (g.Lifts r → g'.lockout = { g.lockout with phase := .clear, streak := 0 }) ∧
      ∀ oco', (g'.plan oco' r).2.map EntryPlan.unlabelled = (g.plan oco r).2.map EntryPlan.unlabelled ∧
        (g'.plan oco' r).1.rule = g'.rule := by
  intro g'
  obtain ⟨log, hplan⟩ := g.plan_fst_eq oco r
  have hg' : g' = { g with lockout := g.lockoutAfter r, log := log } := hplan
  rw [hg']
  refine ⟨⟨rfl, rfl, rfl, rfl⟩, ⟨?_, ?_⟩, lockoutAfter_of_lifts, ?_⟩
  · intro hchanged
    by_contra hnot
    exact hchanged (lockoutAfter_of_not_lifts hnot)
  · intro hlifts hsame
    obtain ⟨t, hphase, -⟩ := hlifts.expired
    rw [lockoutAfter_of_lifts hlifts] at hsame
    have hclear : LockoutPhase.clear = g.lockout.phase := congrArg Lockout.phase hsame
    rw [hphase] at hclear
    cases hclear
  · intro oco'
    constructor
    · -- settings, session and sizing are the same, so that only the risk rules could answer otherwise
      refine g.planner.unlabelled_build oco oco' r ?_
      intro htradeable
      have hagain := g.evaluate_again r.intent
      rw [g.evaluate_of_tradeable htradeable] at hagain
      exact hagain
    · obtain ⟨log', hplan'⟩ := plan_fst_eq { g with lockout := g.lockoutAfter r, log := log } oco' r
      rw [hplan', lockoutAfter_again]
      rfl

/-- Two losses have locked a gate, and the lockout has just expired.  It is lifted by a request that a
blackout window stops, and the request is stopped again when it is repeated. -/
theorem plan_footprint_of_blackout :
    let calendar : CalendarProvider := fun _ _ => some ⟨none, ["09:55-10:05"]⟩
    let start : Instant := ⟨1756821600, 0, by decide, by decide, by decide⟩
    let g := (assemble Settings.defaults .newYork none calendar start).run
      [.outcome false, .outcome false, .advance (.ofMinutes 15)]
    let r : EntryRequest :=
      ⟨⟨⟨2025, 9, 2⟩, ⟨36000, 0, by decide, by decide⟩⟩, "ES", .long, .limit,
        .whole false 5000 (by decide), .defaults, .quarter⟩
    g.lockout.streak = 2 ∧ g.Lifts r ∧ (g.plan "first" r).2 = .ok (.rejected "session window") ∧
      (g.plan "first" r).1.lockout = .new .standard 2 (.ofMinutes 15) ∧
      ((g.plan "first" r).1.plan "second" r).2.map EntryPlan.unlabelled =
        .ok (.rejected "session window") := by
  intro calendar start g r
  have hexpired : ∃ t, g.lockout.phase = .lockedOut t ∧ t ≤ g.now :=
    ⟨start.addCapped (.ofMinutes 15), by decide +kernel⟩
  have hlifts : g.Lifts r :=
    ⟨by decide, by decide, by decide +kernel, by decide +kernel, hexpired⟩
  have hrejected : (g.plan "first" r).2 = .ok (.rejected "session window") := by decide +kernel
  have hcleared : { g.lockout with phase := .clear, streak := 0 } =
      Lockout.new .standard 2 (.ofMinutes 15) := by decide +kernel
  obtain ⟨-, -, hlockout, hagain⟩ := plan_footprint g "first" r
  refine ⟨by decide +kernel, hlifts, hrejected, ?_, ?_⟩
  · rw [hlockout hlifts, hcleared]
  · rw [(hagain "second").1, hrejected]
    rfl

end Gate
end EntryGate
