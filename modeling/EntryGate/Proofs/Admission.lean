import EntryGate.Gate
import EntryGate.Proofs.LockoutHistory
import Mathlib.Data.List.Induction

/-!
# What the gates of an entry ask

A request for an entry is accepted if every gate lets it pass.  For each gate this file says what it
asks, in terms of the settings and of the request and without the way in which the gate finds out.

* `CalendarProvider.OpenAt` is the question of the session gate, and
  `SessionGate.blocking?_eq_none_iff` its answer;
* `SizingSettings.quantity` and `Tier.bounded` are the quantity of an entry, and
  `Gate.quantity_sizingOf` says that the sizing of a gate computes it;
* `EntryRequest.stop` is the protective stop at the distance of the request, and
  `Planner.stopPrice_of_fixedDistance` says which planners compute it, that of a gate among them;
* `Planner.accepted_build_iff` is the series of gates as a whole, for any planner;
* `Gate.evaluate_eq_none_iff` opens the risk rules of a gate.
-/

namespace EntryGate

open Text

/-! ## Session windows -/

/-- No window of the day contains the time.  Texts that are no windows do not count, and a blank
symbol has no day. -/
def CalendarProvider.OpenAt (calendar : CalendarProvider) (symbol : String)
    (moment : LocalDateTime) : Prop :=
  trim symbol ≠ "" → ∀ day, calendar symbol moment.date = some day →
    ∀ text ∈ day.settlement.toList ++ day.blackouts,
      ∀ w, TimeWindow.parse text = .ok w → w.contains moment.time = false

namespace SessionGate

theorem trimChars_of_trim {text : String} (h : (trim text).isEmpty = true) :
    trimChars text.toList = [] := by
  have htrim : trim text = "" := String.isEmpty_iff.1 h
  have hlist : (trim text).toList = [] := by rw [htrim]; rfl
  rwa [trim, String.toList_ofList] at hlist

/-- A blank text is not the text of a window, so the check for blanks changes nothing. -/
theorem window?_eq_some_iff {text : String} {w : TimeWindow} :
    window? text = some w ↔ TimeWindow.parse text = .ok w := by
  rw [window?]
  by_cases hblank : (trim text).isEmpty = true
  · have hparse : TimeWindow.parse text = .error (.shape text) := by
      rw [TimeWindow.parse, trimChars_of_trim hblank]
      rfl
    simp [hblank, hparse]
  · rw [if_neg hblank]
    cases TimeWindow.parse text with
    | ok found => simp
    | error e => simp

theorem blackoutAt?_eq_none_iff {day : CalendarDay} {time : TimeOfDay} :
    blackoutAt? day time = none ↔
      ∀ text ∈ day.blackouts, ∀ w, TimeWindow.parse text = .ok w → w.contains time = false := by
  rw [blackoutAt?, Option.map_eq_none_iff, List.find?_eq_none]
  simp only [List.mem_filterMap, window?_eq_some_iff, forall_exists_index, and_imp,
    Bool.not_eq_true]
  constructor
  · intro h text htext w hw
    exact h w text htext hw
  · intro h w text htext hw
    exact h text htext w hw

/-- The session gate finds no window exactly if there is none to find. -/
theorem blocking?_eq_none_iff {g : SessionGate} {symbol : String} {moment : LocalDateTime} :
    g.blocking? symbol moment = none ↔ g.calendar.OpenAt symbol moment := by
  rw [blocking?, CalendarProvider.OpenAt, day?]
  by_cases hblank : (trim symbol).isEmpty = true
  · simp [String.isEmpty_iff.1 hblank]
  · have hsymbol : trim symbol ≠ "" := fun h => hblank (String.isEmpty_iff.2 h)
    rw [if_neg hblank]
    cases hday : g.calendar symbol moment.date with
    | none => simp
    | some day =>
      simp only [hsymbol, ne_eq, not_false_eq_true, Option.some.injEq, forall_eq', forall_true_left]
      cases hsettlement : day.settlement with
      | none => simpa [hsettlement] using blackoutAt?_eq_none_iff
      | some text =>
        -- the settlement window comes before the blackout windows, if its text is one
        simp only [Option.bind_some, Option.toList_some, List.singleton_append,
          List.forall_mem_cons]
        cases hwindow : window? text with
        | none =>
          have hparse : ∀ w, TimeWindow.parse text ≠ .ok w := by
            intro w hw
            rw [window?_eq_some_iff.2 hw] at hwindow
            cases hwindow
          simpa [hparse] using blackoutAt?_eq_none_iff
        | some w =>
          have hparse : TimeWindow.parse text = .ok w := window?_eq_some_iff.1 hwindow
          cases hcontains : w.contains moment.time with
          | true => simp [hparse, hcontains]
          | false => simpa [hparse, hcontains] using blackoutAt?_eq_none_iff

end SessionGate

/-! ## Quantities -/

/-- A quantity moved to the nearer end of the band if it lies outside. -/
def Tier.bounded (t : Tier) (quantity : Nat) : Nat :=
  if quantity < t.min then t.min else if t.max < quantity then t.max else quantity

theorem Tier.clamp_fst (t : Tier) (quantity : Nat) (reason : String) :
    (t.clamp quantity reason).1 = t.bounded quantity := by
  rw [clamp, bounded]
  split
  · rfl
  · split <;> rfl

/-- The quantity for a symbol: that of its last spelling among the overrides, or that of the mode. -/
def SizingSettings.quantity (s : SizingSettings) (symbol : String) (mode : RiskMode) : Nat :=
  ((s.symbolQuantities.reverse.find? fun e => decide (symbolKey e.1 = symbolKey symbol)).map
    Prod.snd).getD (s.bracket.quantityFor mode)

theorem SymbolQuantities.get?_ofList (entries : List (String × Nat)) (key : String) :
    (ofList entries).quantities.get? key =
      (entries.reverse.find? fun e => decide (symbolKey e.1 = key)).map Prod.snd := by
  induction entries using List.reverseRecOn with
  | nil => rfl
  | append_singleton entries e ih =>
    have hstep : (ofList (entries ++ [e])).quantities =
        (ofList entries).quantities.put (symbolKey e.1) e.2 := by
      rw [ofList, List.foldl_append]
      rfl
    rw [hstep, Table.get?_put, List.reverse_append, List.reverse_singleton, List.singleton_append,
      List.find?_cons]
    by_cases hkey : symbolKey e.1 = key
    · simp [hkey]
    · simp [hkey, ih]

theorem Gate.quantity_sizingOf (s : Settings) (intent : PositionIntent) (mode : RiskMode) :
    ((sizingOf s).decide intent mode).quantity =
      (s.tiers.forMode mode).bounded (s.sizing.quantity intent.symbol mode) := by
  have hraw : ((sizingOf s).rawDecide intent mode).quantity =
        s.sizing.quantity intent.symbol mode ∧
      ((sizingOf s).rawDecide intent mode).mode = mode := by
    rw [SizingChain.rawDecide, sizingOf, SizingSettings.quantity]
    by_cases hnone : s.sizing.symbolQuantities.isEmpty = true
    · rw [if_pos hnone, List.isEmpty_iff.1 hnone]
      exact ⟨rfl, rfl⟩
    · rw [if_neg hnone, ← SymbolQuantities.get?_ofList]
      simp only [List.findSome?_cons, List.findSome?_nil, SymbolQuantities.rule]
      cases (SymbolQuantities.ofList s.sizing.symbolQuantities).quantities.get?
          (symbolKey intent.symbol) with
      | none => exact ⟨rfl, rfl⟩
      | some quantity => exact ⟨rfl, rfl⟩
  have hdecide : ((sizingOf s).decide intent mode).quantity =
      ((s.tiers.forMode ((sizingOf s).rawDecide intent mode).mode).clamp
        ((sizingOf s).rawDecide intent mode).quantity
        ((sizingOf s).rawDecide intent mode).reason).1 := rfl
  rw [hdecide, Tier.clamp_fst, hraw.1, hraw.2]

/-! ## Stops -/

namespace EntryRequest

/-- The stop at the distance of the request from an entry, rounded to its ticks. -/
def stop (r : EntryRequest) (entry : Decimal) : Except Fault Decimal := do
  let distance ← FixedDistance.distance ⟨r.tickSize⟩ r.profile
  let stop ← (if r.side.isLong then entry.sub distance else entry.add distance)
  stop.roundToTick r.tickSize

/-- A stop is on the side of the entry where it protects. -/
def Protects (r : EntryRequest) (entry stop : Decimal) : Prop :=
  if r.side.isLong then stop < entry else entry < stop

end EntryRequest

/-- Without a prior stop, what trails at the entry is the stop at the distance from it. -/
theorem tighten_self (isLong : Bool) (a : Decimal) : tighten isLong a a = a := by
  rw [tighten]
  split
  · rfl
  · cases isLong with
    | true => exact ite_self a
    | false => exact ite_self a

/-- A planner that trails at a fixed distance computes the stop at the distance of the request,
whatever the tick size of its own. -/
theorem Planner.stopPrice_of_fixedDistance {ρ : Type} {p : Planner ρ} {e : FixedDistance}
    (h : p.trailing = e.trailing) (r : EntryRequest) (entry : Decimal) :
    p.stopPrice r entry = r.stop entry := by
  have hstop : p.trailing.stopWithTick r.tickSize
        ⟨entry, entry, r.side.isLong, r.profile, .zero⟩ =
      FixedDistance.stop ⟨r.tickSize⟩ ⟨entry, entry, r.side.isLong, r.profile, .zero⟩ := by
    rw [h]
    rfl
  have hzero : Decimal.zero ≤ .zero := Int.le_refl _
  rw [Planner.stopPrice, hstop, FixedDistance.stop, EntryRequest.stop]
  simp only [hzero, if_true]
  cases FixedDistance.distance ⟨r.tickSize⟩ r.profile with
  | error fault => rfl
  | ok distance =>
    cases hoffset : if r.side.isLong then entry.sub distance else entry.add distance with
    | error fault => simp [hoffset, bind, Except.bind]
    | ok stop => simp [hoffset, bind, Except.bind, pure, Except.pure, tighten_self]

theorem Gate.stopPrice_planner (g : Gate) (r : EntryRequest) (entry : Decimal) :
    g.planner.stopPrice r entry = r.stop entry :=
  Planner.stopPrice_of_fixedDistance (e := g.trailing) rfl r entry

/-! ## The series of gates -/

/-- An answer is an accepted plan. -/
def Planned.Accepted {ρ : Type} (planned : Planned ρ) : Prop :=
  ∃ plan, planned.plan = .ok plan ∧ plan.accepted = true

namespace Planner

variable {ρ : Type}

/-- An order with a price has a positive one, and there is a stop on the side where it protects. -/
def Priced (p : Planner ρ) (r : EntryRequest) : Prop :=
  (r.kind.isPriceBased = true → .zero < r.price) ∧
    ∃ entry stop, entryPrice r = .ok entry ∧ p.stopPrice r entry = .ok stop ∧
      r.Protects entry stop

theorem not_accepted_refuse (state : ρ) (gate reason : String) :
    ¬(refuse state gate reason).Accepted := by
  rintro ⟨plan, hplan, haccepted⟩
  cases hplan
  cases haccepted

theorem not_accepted_of_error {planned : Planned ρ} {fault : Fault}
    (h : planned.plan = .error fault) : ¬planned.Accepted := by
  rintro ⟨plan, hplan, -⟩
  rw [h] at hplan
  cases hplan

/-- The reason for refusing a stop that does not protect. -/
def sideReason (r : EntryRequest) : String :=
  if r.side.isLong then "stop side invalid (long)" else "stop side invalid (short)"

theorem protects_iff {r : EntryRequest} {entry stop : Decimal} :
    r.Protects entry stop ↔
      ¬(r.side.isLong = true ∧ entry ≤ stop ∨ ¬r.side.isLong = true ∧ stop ≤ entry) := by
  rw [EntryRequest.Protects]
  cases r.side.isLong with
  | true => simp [Decimal.not_le]
  | false => simp [Decimal.not_le]

/-- The verdict on a price that passes, once there is an entry and a stop. -/
theorem priceOrders_eq {p : Planner ρ} {r : EntryRequest} {entry stop : Decimal}
    (hprice : ¬(r.kind.isPriceBased = true ∧ r.price ≤ .zero)) (hentry : entryPrice r = .ok entry)
    (hstop : p.stopPrice r entry = .ok stop) (oco : String) (quantity : Nat) :
    p.priceOrders oco r quantity =
      .ok (if r.side.isLong = true ∧ entry ≤ stop ∨ ¬r.side.isLong = true ∧ stop ≤ entry
        then .reject "stop" (sideReason r) else .accept (orders r quantity entry stop oco)) := by
  rw [priceOrders, if_neg hprice]
  simp only [hentry, hstop, bind, Except.bind, pure, Except.pure]
  cases hlong : r.side.isLong with
  | true =>
    by_cases hle : entry ≤ stop
    · simp [hlong, hle, sideReason]
    · simp [hle]
  | false =>
    by_cases hle : stop ≤ entry
    · simp [hlong, hle, sideReason]
    · simp [hle]

/-- The verdict on the prices: for those that pass, the two orders. -/
theorem priceOrders_of_priced {p : Planner ρ} {r : EntryRequest} (h : p.Priced r) (oco : String)
    (quantity : Nat) :
    ∃ entry stop, p.priceOrders oco r quantity = .ok (.accept (orders r quantity entry stop oco)) := by
  obtain ⟨hprice, entry, stop, hentry, hstop, hside⟩ := h
  refine ⟨entry, stop, ?_⟩
  have hgood : ¬(r.kind.isPriceBased = true ∧ r.price ≤ .zero) := by
    rintro ⟨hbased, hle⟩
    exact Decimal.not_le.2 (hprice hbased) hle
  rw [priceOrders_eq hgood hentry hstop, if_neg (protects_iff.1 hside)]

/-- What the price gate and the stop gate can answer. -/
theorem priceOrders_eq_ok {p : Planner ρ} {r : EntryRequest} {oco : String} {quantity : Nat}
    {verdict : Verdict} (h : p.priceOrders oco r quantity = .ok verdict) :
    ((r.kind.isPriceBased = true ∧ r.price ≤ .zero) ∧ verdict = .reject "price" "bad price") ∨
      ∃ entry stop, ¬(r.kind.isPriceBased = true ∧ r.price ≤ .zero) ∧
        entryPrice r = .ok entry ∧ p.stopPrice r entry = .ok stop ∧
        ((r.Protects entry stop ∧ verdict = .accept (orders r quantity entry stop oco)) ∨
          (¬r.Protects entry stop ∧ verdict = .reject "stop" (sideReason r))) := by
  by_cases hprice : r.kind.isPriceBased = true ∧ r.price ≤ .zero
  · rw [priceOrders, if_pos hprice] at h
    cases h
    exact .inl ⟨hprice, rfl⟩
  · right
    cases hentry : entryPrice r with
    | error fault => simp [priceOrders, hprice, hentry, bind, Except.bind] at h
    | ok entry =>
      cases hstop : p.stopPrice r entry with
      | error fault => simp [priceOrders, hprice, hentry, hstop, bind, Except.bind] at h
      | ok stop =>
        refine ⟨entry, stop, hprice, rfl, hstop, ?_⟩
        rw [priceOrders_eq hprice hentry hstop] at h
        by_cases hside : r.Protects entry stop
        · rw [if_neg (protects_iff.1 hside)] at h
          cases h
          exact .inl ⟨hside, rfl⟩
        · rw [if_pos (Classical.not_not.1 (mt protects_iff.2 hside))] at h
          cases h
          exact .inr ⟨hside, rfl⟩

theorem priced_of_priceOrders {p : Planner ρ} {r : EntryRequest} {oco : String} {quantity : Nat}
    {plan : EntryPlan} (h : p.priceOrders oco r quantity = .ok (.accept plan)) : p.Priced r := by
  rcases priceOrders_eq_ok h with ⟨-, hreject⟩ | ⟨entry, stop, hprice, hentry, hstop, hverdict⟩
  · cases hreject
  · rcases hverdict with ⟨hside, -⟩ | ⟨-, hreject⟩
    · refine ⟨?_, entry, stop, hentry, hstop, hside⟩
      intro hbased
      exact Decimal.not_le.1 fun hle => hprice ⟨hbased, hle⟩
    · cases hreject

theorem accepted_afterRisk_iff {p : Planner ρ} {oco : String} {r : EntryRequest} {state : ρ} :
    (p.afterRisk oco r state).Accepted ↔
      p.session.blocking? r.symbol r.now = none ∧
        0 < (p.sizer.decide r.intent p.mode).quantity ∧ p.Priced r := by
  rw [afterRisk]
  cases hblock : p.session.blocking? r.symbol r.now with
  | some block =>
    simp only [reduceCtorEq, false_and, iff_false]
    rintro ⟨plan, hplan, haccepted⟩
    cases hplan
    cases haccepted
  | none =>
    simp only [true_and]
    by_cases hzero : (p.sizer.decide r.intent p.mode).quantity = 0
    · rw [if_pos hzero]
      simp [hzero, not_accepted_refuse]
    · rw [if_neg hzero]
      have hpos : 0 < (p.sizer.decide r.intent p.mode).quantity := Nat.pos_of_ne_zero hzero
      constructor
      · -- only the last of the verdicts accepts
        intro haccepted
        refine ⟨hpos, ?_⟩
        cases hverdict : p.priceOrders oco r (p.sizer.decide r.intent p.mode).quantity with
        | error fault =>
          rw [hverdict] at haccepted
          exact absurd haccepted (not_accepted_of_error rfl)
        | ok verdict =>
          cases verdict with
          | reject gate reason =>
            rw [hverdict] at haccepted
            exact absurd haccepted (not_accepted_refuse state gate reason)
          | accept plan => exact priced_of_priceOrders hverdict
      · rintro ⟨-, hpriced⟩
        obtain ⟨entry, stop, hverdict⟩ :=
          priceOrders_of_priced hpriced oco (p.sizer.decide r.intent p.mode).quantity
        rw [hverdict]
        exact ⟨_, rfl, rfl⟩

/-- A request is accepted exactly if it passes every gate. -/
theorem accepted_build_iff {p : Planner ρ} {oco : String} {r : EntryRequest} {state : ρ} :
    (p.build oco r state).Accepted ↔
      r.symbol ≠ "" ∧ r.side ≠ .flat ∧ (p.risk state r.intent).2 = .ok none ∧
        p.session.blocking? r.symbol r.now = none ∧
        0 < (p.sizer.decide r.intent p.mode).quantity ∧ p.Priced r := by
  rw [build]
  by_cases hsymbol : r.symbol = ""
  · simp [hsymbol, not_accepted_refuse]
  · rw [if_neg fun h => hsymbol (String.isEmpty_iff.1 h)]
    by_cases hflat : r.side = .flat
    · simp [hflat, Side.isFlat, not_accepted_refuse]
    · rw [if_neg (by simpa [Side.isFlat] using hflat)]
      rcases hrisk : p.risk state r.intent with ⟨next, answer⟩
      simp only [hsymbol, hflat, ne_eq, not_false_eq_true, true_and]
      cases answer with
      | error fault => simpa using not_accepted_of_error rfl
      | ok refusal =>
        cases refusal with
        | some reason => simpa using not_accepted_refuse next "risk" reason
        | none => simpa using accepted_afterRisk_iff

/-- Only the risk rules change state, and they are not asked about an intent that is none. -/
theorem state_build (p : Planner ρ) (oco : String) (r : EntryRequest) (state : ρ) :
    (p.build oco r state).state =
      if r.intent.isTradeable then (p.risk state r.intent).1 else state := by
  have hafter : ∀ next, (p.afterRisk oco r next).state = next := by
    intro next
    simp only [afterRisk]
    split
    · rfl
    · split
      · rfl
      · split <;> rfl
  rw [build, PositionIntent.isTradeable, EntryRequest.intent]
  by_cases hsymbol : r.symbol.isEmpty = true
  · simp [hsymbol, refuse]
  · by_cases hflat : r.side.isFlat = true
    · simp [hsymbol, hflat, refuse]
    · rcases hrisk : p.risk state ⟨r.symbol, r.side⟩ with ⟨next, answer⟩
      simp only [hsymbol, hflat, Bool.false_eq_true, if_false, Bool.not_false, Bool.and_self, if_true]
      cases answer with
      | error fault => rfl
      | ok refusal =>
        cases refusal with
        | some reason => rfl
        | none => exact hafter next

end Planner

/-! ## The risk rules -/

theorem SwitchFlags.refusal?_eq_none_iff {f : SwitchFlags} :
    f.refusal? = none ↔ f.enabled = true ∧ f.manualLockout = false := by
  cases f with
  | mk enabled manualLockout => cases enabled <;> cases manualLockout <;> decide

theorem CapsRule.refusal_eq_none_iff {c : CapsRule} :
    c.refusal = .ok none ↔ c.caps.evaluate c.snapshot = .ok .allow := by
  rw [refusal, decision]
  cases c.caps.evaluate c.snapshot with
  | error fault => simp [bind, Except.bind]
  | ok d => cases d <;> simp [bind, Except.bind, pure, Except.pure, RiskDecision.isAllow]

theorem Lockout.evaluate_eq_none_iff {l : Lockout} {now : Instant} {intent : PositionIntent}
    (h : intent.symbol ≠ "") :
    (l.evaluate now intent).2 = none ↔ ¬∃ t, l.phase = .lockedOut t ∧ now < t := by
  have hsymbol : ¬intent.symbol.isEmpty = true := fun hempty => h (String.isEmpty_iff.1 hempty)
  rw [← poll_eq_false_iff, evaluate, if_neg hsymbol]
  cases hpoll : (l.poll now).2 with
  | true => simp [hpoll]
  | false => simp [hpoll]

namespace Gate

/-- A gate takes over the states of rules of the form that its own rules have. -/
theorem withRule_switch (g : Gate) (flags : SwitchFlags) (mode : RiskMode) (l : Lockout)
    (c : CapsRule) (guard? : Option LossGuard) :
    g.withRule (.switch flags
        (.chain mode (.lockout l :: .caps c :: (guard?.map Rule.guard).toList))) =
      { g with switch := flags, lockout := l, snapshot := c.snapshot, lossGuard := guard? } := by
  cases guard? with
  | none => rfl
  | some guard => rfl

/-- What the chain of rules answers, and the rules afterwards: only the lockout can change. -/
theorem evaluateAll_rules (g : Gate) (intent : PositionIntent) :
    (Rule.evaluateAll g.now intent g.rules).1 =
        .lockout (g.lockout.evaluate g.now intent).1 :: .caps ⟨g.settings.caps, g.snapshot⟩ ::
          (g.lossGuard.map Rule.guard).toList ∧
      ((Rule.evaluateAll g.now intent g.rules).2 = .ok none ↔
        (g.lockout.evaluate g.now intent).2 = none ∧
          g.settings.caps.evaluate g.snapshot = .ok .allow ∧
          ∀ guard ∈ g.lossGuard, guard.isBlocked = false) := by
  rcases hlockout : g.lockout.evaluate g.now intent with ⟨l, refusal⟩
  rw [rules, List.cons_append, List.singleton_append, Rule.evaluateAll, Rule.evaluate, hlockout]
  cases refusal with
  | some reason => simp
  | none =>
    rw [Rule.evaluateAll, Rule.evaluate]
    have hcaps := CapsRule.refusal_eq_none_iff (c := ⟨g.settings.caps, g.snapshot⟩)
    cases hrefusal : CapsRule.refusal ⟨g.settings.caps, g.snapshot⟩ with
    | error fault =>
      rw [hrefusal] at hcaps
      simp [← hcaps]
    | ok answer =>
      rw [hrefusal] at hcaps
      cases answer with
      | some reason => simp [← hcaps]
      | none =>
        cases g.lossGuard with
        | none => simp [Rule.evaluateAll, ← hcaps]
        | some guard =>
          cases hblocked : guard.isBlocked with
          | true => simp [Rule.evaluateAll, Rule.evaluate, hblocked]
          | false => simp [Rule.evaluateAll, Rule.evaluate, hblocked, ← hcaps]

/-- Asking the risk rules changes the lockout at most, and only if the switch lets the question
through. -/
theorem evaluate_fst (g : Gate) (intent : PositionIntent) :
    (g.evaluate intent).1 =
      if g.switch.isBlocked then g
      else { g with lockout := (g.lockout.evaluate g.now intent).1 } := by
  rw [evaluate, rule, Rule.evaluate, SwitchFlags.isBlocked]
  cases hswitch : g.switch.refusal? with
  | some reason =>
    exact g.withRule_switch g.switch g.settings.riskMode g.lockout ⟨g.settings.caps, g.snapshot⟩
      g.lossGuard
  | none =>
    obtain ⟨hrules, -⟩ := g.evaluateAll_rules intent
    simp only [Rule.evaluate, hrules]
    exact g.withRule_switch g.switch _ _ _ g.lossGuard

/-- The risk rules let an intent pass exactly if the switch, the lockout, the caps and the guard
do. -/
theorem evaluate_eq_none_iff {g : Gate} {intent : PositionIntent} (h : intent.symbol ≠ "") :
    (g.evaluate intent).2 = .ok none ↔
      g.switch.enabled = true ∧ g.switch.manualLockout = false ∧
        (¬∃ t, g.lockout.phase = .lockedOut t ∧ g.now < t) ∧
        g.settings.caps.evaluate g.snapshot = .ok .allow ∧
        ∀ guard ∈ g.lossGuard, guard.isBlocked = false := by
  rw [← and_assoc, ← SwitchFlags.refusal?_eq_none_iff, ← Lockout.evaluate_eq_none_iff h, evaluate,
    rule, Rule.evaluate]
  cases hswitch : g.switch.refusal? with
  | some reason => simp
  | none =>
    obtain ⟨-, hanswer⟩ := g.evaluateAll_rules intent
    simpa [Rule.evaluate] using hanswer

end Gate
end EntryGate
