import EntryGate.Proofs.DecimalRounding
import EntryGate.Proofs.StopLineage
import EntryGate.Stop.Strategy
import Mathlib.Data.List.Basic

/-!
# Lineages of trailing stops

A way of trailing is asked again and again, each time with its own last answer as the prior stop.
From the first positive stop on, such a lineage never gives ground.  A long position may still see
stops that are not positive at first.  For a short position with positive prices there are none,
unless the strategy never has an opinion at all: an amount that is added to a price, and a factor
that is greater than one, cannot be rounded so far down that the stop vanishes.

* `StopStrategy.silent_or_outspoken`: whether a strategy has an opinion depends on the strategy alone;
* `StopStrategy.pos_of_stop`: every opinion on a short position with positive prices is positive;
* `Trailing.lineage` is the lineage of a sequence of prices and profiles;
* `Trailing.lineage_never_loosens` is the result, for both sides.
-/

namespace EntryGate

/-! ## Opinions of strategies -/

namespace StopStrategy

/-- A strategy that never has an opinion. -/
def Silent (s : StopStrategy) : Prop :=
  ∀ entry current isLong, s.stop entry current isLong = .ok none

/-- A strategy that has an opinion whenever it gives an answer. -/
def Outspoken (s : StopStrategy) : Prop :=
  ∀ entry current isLong, s.stop entry current isLong ≠ .ok none

/-- The tighter of two positive stops is positive. -/
theorem pos_tighter {a b : Decimal} (ha : .zero < a) (hb : .zero < b) (isLong : Bool) :
    .zero < tighter isLong a b := by
  cases isLong with
  | true => exact Decimal.pos_of_le ha (Decimal.le_max_left a b)
  | false =>
    have hlower : tighter false a b = a.min b := rfl
    rw [hlower]
    rcases Decimal.min_eq_or a b with hmin | hmin
    · rw [hmin]
      exact ha
    · rw [hmin]
      exact hb

/-! ### Ticks and fractions -/

theorem ticksStop_of_idle {count : Nat} {tickSize : Decimal} (h : count = 0 ∨ tickSize ≤ .zero)
    (entry current : Decimal) (isLong : Bool) :
    ticksStop count tickSize entry current isLong = .ok none := by
  rw [ticksStop, if_pos h]

theorem ticksStop_eq_ok {count : Nat} {tickSize entry current : Decimal} {isLong : Bool}
    {answer : Option Decimal} (hactive : ¬(count = 0 ∨ tickSize ≤ .zero))
    (h : ticksStop count tickSize entry current isLong = .ok answer) :
    ∃ offset fromEntry fromCurrent, .zero ≤ offset ∧
      (if isLong then entry.sub offset else entry.add offset) = .ok fromEntry ∧
      (if isLong then current.sub offset else current.add offset) = .ok fromCurrent ∧
      answer = some (tighter isLong fromEntry fromCurrent) := by
  rw [ticksStop, if_neg hactive] at h
  obtain ⟨n, hn, h⟩ := Fault.bind_eq_ok.1 h
  obtain ⟨offset, hoffset, h⟩ := Fault.bind_eq_ok.1 h
  obtain ⟨fromEntry, hentry, h⟩ := Fault.bind_eq_ok.1 h
  obtain ⟨fromCurrent, hcurrent, h⟩ := Fault.bind_eq_ok.1 h
  cases h
  have hcount : .zero ≤ n := by
    rw [Decimal.ofCount] at hn
    split at hn
    · cases hn
      exact Decimal.nonneg_of_not_negative rfl
    · cases hn
  have htick : .zero ≤ tickSize := Int.le_of_lt (Decimal.not_le.1 (not_or.1 hactive).2)
  have hnonneg : .zero ≤ offset := Decimal.nonneg_mul hcount htick hoffset
  exact ⟨offset, fromEntry, fromCurrent, hnonneg, hentry, hcurrent, rfl⟩

theorem percentStop_of_idle {fraction : Decimal} (h : fraction ≤ .zero) (entry current : Decimal)
    (isLong : Bool) : percentStop fraction entry current isLong = .ok none := by
  rw [percentStop, if_pos h]

theorem percentStop_eq_ok {fraction entry current : Decimal} {isLong : Bool}
    {answer : Option Decimal} (hactive : ¬fraction ≤ .zero)
    (h : percentStop fraction entry current isLong = .ok answer) :
    ∃ factor fromEntry fromCurrent,
      (if isLong then Decimal.one.sub fraction else Decimal.one.add fraction) = .ok factor ∧
      entry.mul factor = .ok fromEntry ∧ current.mul factor = .ok fromCurrent ∧
      answer = some (tighter isLong fromEntry fromCurrent) := by
  have hsteps : percentStop fraction entry current isLong =
      (if isLong then Decimal.one.sub fraction else Decimal.one.add fraction) >>= fun factor => do
        let fromEntry ← entry.mul factor
        let fromCurrent ← current.mul factor
        return some (tighter isLong fromEntry fromCurrent) := by
    rw [percentStop, if_neg hactive]
    cases isLong <;> rfl
  rw [hsteps] at h
  obtain ⟨factor, hfactor, h⟩ := Fault.bind_eq_ok.1 h
  obtain ⟨fromEntry, hentry, h⟩ := Fault.bind_eq_ok.1 h
  obtain ⟨fromCurrent, hcurrent, h⟩ := Fault.bind_eq_ok.1 h
  cases h
  exact ⟨factor, fromEntry, fromCurrent, hfactor, hentry, hcurrent, rfl⟩

/-- Adding a number of ticks to positive prices leaves a positive stop. -/
theorem pos_of_ticksStop {count : Nat} {tickSize entry current stop : Decimal}
    (hentry : .zero < entry) (hcurrent : .zero < current)
    (h : ticksStop count tickSize entry current false = .ok (some stop)) : .zero < stop := by
  by_cases hidle : count = 0 ∨ tickSize ≤ .zero
  · rw [ticksStop_of_idle hidle] at h
    cases h
  · obtain ⟨offset, fromEntry, fromCurrent, hoffset, he, hc, hstop⟩ := ticksStop_eq_ok hidle h
    cases hstop
    have hfromEntry : entry ≤ fromEntry := Decimal.le_add_of_nonneg hentry hoffset he
    have hfromCurrent : current ≤ fromCurrent := Decimal.le_add_of_nonneg hcurrent hoffset hc
    exact pos_tighter (Decimal.pos_of_le hentry hfromEntry)
      (Decimal.pos_of_le hcurrent hfromCurrent) false

/-- So does taking them times one and a fraction. -/
theorem pos_of_percentStop {fraction entry current stop : Decimal}
    (hentry : .zero < entry) (hcurrent : .zero < current)
    (h : percentStop fraction entry current false = .ok (some stop)) : .zero < stop := by
  by_cases hidle : fraction ≤ .zero
  · rw [percentStop_of_idle hidle] at h
    cases h
  · obtain ⟨factor, fromEntry, fromCurrent, hfactor, he, hc, hstop⟩ := percentStop_eq_ok hidle h
    cases hstop
    have hfraction : .zero ≤ fraction := Int.le_of_lt (Decimal.not_le.1 hidle)
    have hone : .one ≤ factor := Decimal.le_add_of_nonneg (by decide) hfraction hfactor
    have hfromEntry : entry ≤ fromEntry := Decimal.le_mul_of_one_le hentry hone he
    have hfromCurrent : current ≤ fromCurrent := Decimal.le_mul_of_one_le hcurrent hone hc
    exact pos_tighter (Decimal.pos_of_le hentry hfromEntry)
      (Decimal.pos_of_le hcurrent hfromCurrent) false

/-! ### Composites -/

theorem stopAll_cons_eq_ok {entry current : Decimal} {isLong : Bool} {best answer : Option Decimal}
    {s : StopStrategy} {rest : List StopStrategy} :
    stopAll entry current isLong best (s :: rest) = .ok answer ↔
      ∃ opinion, s.stop entry current isLong = .ok opinion ∧
        stopAll entry current isLong (tighterOpinion isLong best opinion) rest = .ok answer := by
  rw [stopAll]
  exact Fault.bind_eq_ok

/-- Once there is an opinion, one remains. -/
theorem stopAll_some_ne_none (entry current : Decimal) (isLong : Bool) (best : Decimal)
    (stops : List StopStrategy) : stopAll entry current isLong (some best) stops ≠ .ok none := by
  induction stops generalizing best with
  | nil =>
    rw [stopAll]
    intro h
    cases h
  | cons s rest ih =>
    intro h
    obtain ⟨opinion, -, hrest⟩ := stopAll_cons_eq_ok.1 h
    cases opinion with
    | none => exact ih best hrest
    | some other => exact ih (tighter isLong best other) hrest

mutual

/-- Whether a strategy has an opinion depends on the strategy alone, not on prices or sides. -/
theorem silent_or_outspoken : ∀ s : StopStrategy, s.Silent ∨ s.Outspoken
  | .ticks count tickSize => by
    simp only [Silent, Outspoken, stop]
    by_cases hidle : count = 0 ∨ tickSize ≤ .zero
    · exact .inl (ticksStop_of_idle hidle)
    · right
      intro entry current isLong h
      obtain ⟨offset, fromEntry, fromCurrent, -, -, -, hnone⟩ := ticksStop_eq_ok hidle h
      cases hnone
  | .percent fraction => by
    simp only [Silent, Outspoken, stop]
    by_cases hidle : fraction ≤ .zero
    · exact .inl (percentStop_of_idle hidle)
    · right
      intro entry current isLong h
      obtain ⟨factor, fromEntry, fromCurrent, -, -, -, hnone⟩ := percentStop_eq_ok hidle h
      cases hnone
  | .composite stops => by
    simp only [Silent, Outspoken, stop]
    rcases stopAll_silent_or_outspoken stops with hsilent | hspoken
    · exact .inl fun entry current isLong => hsilent entry current isLong none
    · exact .inr fun entry current isLong => hspoken entry current isLong none

theorem stopAll_silent_or_outspoken : ∀ stops : List StopStrategy,
    (∀ entry current isLong best, stopAll entry current isLong best stops = .ok best) ∨
      ∀ entry current isLong best, stopAll entry current isLong best stops ≠ .ok none
  | [] => .inl fun _ _ _ _ => by rw [stopAll]
  | s :: rest => by
    rcases silent_or_outspoken s with hs | hs
    · -- the first strategy leaves the best opinion as it is
      have hskip : ∀ entry current isLong best,
          stopAll entry current isLong best (s :: rest) = stopAll entry current isLong best rest := by
        intro entry current isLong best
        rw [stopAll, hs entry current isLong]
        cases best <;> rfl
      simp only [hskip]
      exact stopAll_silent_or_outspoken rest
    · right
      intro entry current isLong best h
      obtain ⟨opinion, hopinion, hrest⟩ := stopAll_cons_eq_ok.1 h
      cases opinion with
      | none => exact hs entry current isLong hopinion
      | some other =>
        cases best with
        | none => exact stopAll_some_ne_none _ _ _ _ _ hrest
        | some best => exact stopAll_some_ne_none _ _ _ _ _ hrest

end

mutual

/-- On a short position with positive prices every opinion is positive. -/
theorem pos_of_stop {entry current : Decimal} (hentry : .zero < entry) (hcurrent : .zero < current) :
    ∀ (s : StopStrategy) {x : Decimal}, s.stop entry current false = .ok (some x) → .zero < x
  | .ticks count tickSize, x, h => by
    rw [stop] at h
    exact pos_of_ticksStop hentry hcurrent h
  | .percent fraction, x, h => by
    rw [stop] at h
    exact pos_of_percentStop hentry hcurrent h
  | .composite stops, x, h => by
    rw [stop] at h
    exact pos_of_stopAll hentry hcurrent stops (by simp) h

theorem pos_of_stopAll {entry current : Decimal} (hentry : .zero < entry)
    (hcurrent : .zero < current) :
    ∀ (stops : List StopStrategy) {best : Option Decimal} {x : Decimal},
      (∀ b, best = some b → .zero < b) →
        stopAll entry current false best stops = .ok (some x) → .zero < x
  | [], best, x, hbest, h => by
    rw [stopAll] at h
    cases h
    exact hbest x rfl
  | s :: rest, best, x, hbest, h => by
    obtain ⟨opinion, hopinion, hrest⟩ := stopAll_cons_eq_ok.1 h
    -- the best opinion so far stays positive
    have hopinions : ∀ b, tighterOpinion false best opinion = some b → .zero < b := by
      intro b hb
      cases opinion with
      | none =>
        have hkept : best = some b := by
          cases best <;> exact hb
        exact hbest b hkept
      | some other =>
        have hother : .zero < other := pos_of_stop hentry hcurrent s hopinion
        cases best with
        | none =>
          cases hb
          exact hother
        | some old =>
          cases hb
          exact pos_tighter (hbest old rfl) hother false
    exact pos_of_stopAll hentry hcurrent rest hopinions hrest

end

end StopStrategy

/-! ## Fixed distances -/

/-- Held against any prior stop, a positive candidate gives a positive stop. -/
theorem pos_tighten {candidate : Decimal} (h : .zero < candidate) (isLong : Bool)
    (prior : Decimal) : .zero < tighten isLong prior candidate := by
  by_cases hprior : .zero < prior
  · rw [tighten, if_neg (Decimal.not_le.2 hprior)]
    exact StopStrategy.pos_tighter hprior h isLong
  · rw [tighten_of_not_pos hprior]
    exact h

namespace FixedDistance

theorem nonneg_distance {e : FixedDistance} {profile : TrailingProfile} {d : Decimal}
    (h : e.distance profile = .ok d) : .zero ≤ d := by
  rw [distance] at h
  have hticks : .zero ≤ (if profile.param1 ≤ .zero then Decimal.ten else profile.param1) := by
    split
    · decide
    · next hparam => exact Int.le_of_lt (Decimal.not_le.1 hparam)
  split at h
  · next htick => exact Decimal.nonneg_mul hticks (Int.le_of_lt htick) h
  · cases h
    exact hticks

theorem stop_eq_ok {e : FixedDistance} {q : StopQuery} {next : Decimal} (h : e.stop q = .ok next) :
    ∃ d seed candidate, e.distance q.profile = .ok d ∧
      (if q.isLong then q.current.sub d else q.current.add d) = .ok candidate ∧
      (if q.isLong then q.entry.sub d else q.entry.add d) = .ok seed ∧
      next = tighten q.isLong (if q.prior ≤ .zero then seed else q.prior) candidate := by
  rw [stop] at h
  obtain ⟨d, hd, h⟩ := Fault.bind_eq_ok.1 h
  obtain ⟨candidate, hcandidate, h⟩ := Fault.bind_eq_ok.1 h
  obtain ⟨seed, hseed, h⟩ := Fault.bind_eq_ok.1 h
  cases h
  exact ⟨d, seed, candidate, hd, hcandidate, hseed, rfl⟩

end FixedDistance

/-! ## One stop -/

namespace Trailing

/-- The ways of trailing: at a fixed distance, or with a strategy that is held against the prior
stop. -/
inductive Standard : Trailing → Prop where
  | fixedDistance (e : FixedDistance) : Standard e.trailing
  | ratchet (s : StopStrategy) : Standard s.ratchet

/-- A positive prior stop is never loosened. -/
theorem Standard.noWorse {t : Trailing} (ht : t.Standard) {q : StopQuery} {next : Decimal}
    (hprior : .zero < q.prior) (h : t.stop q = .ok next) : NoWorse q.isLong q.prior next := by
  cases ht with
  | fixedDistance e =>
    obtain ⟨d, seed, candidate, -, -, -, rfl⟩ := FixedDistance.stop_eq_ok h
    rw [if_neg (Decimal.not_le.2 hprior)]
    exact noWorse_tighten hprior q.isLong candidate
  | ratchet s =>
    obtain ⟨opinion, -, h⟩ := Fault.bind_eq_ok.1 h
    cases opinion with
    | none =>
      cases h
      cases q.isLong <;> exact Int.le_refl _
    | some candidate =>
      cases h
      exact noWorse_tighten hprior q.isLong candidate

/-- On a short position with positive prices every stop is positive, except where it comes from a
strategy that never has an opinion. -/
theorem Standard.silent_or_pos {t : Trailing} (ht : t.Standard) :
    (∃ s : StopStrategy, t = s.ratchet ∧ s.Silent) ∨
      ∀ entry current profile prior next, .zero < entry → .zero < current →
        t.stop ⟨entry, current, false, profile, prior⟩ = .ok next → .zero < next := by
  cases ht with
  | fixedDistance e =>
    right
    intro entry current profile prior next _ hcurrent h
    -- the candidate alone makes the stop positive, whatever it is held against
    obtain ⟨d, seed, candidate, hd, hcandidate, -, rfl⟩ := FixedDistance.stop_eq_ok h
    have hle := Decimal.le_add_of_nonneg hcurrent (FixedDistance.nonneg_distance hd) hcandidate
    exact pos_tighten (Decimal.pos_of_le hcurrent hle) false _
  | ratchet s =>
    rcases s.silent_or_outspoken with hsilent | hspoken
    · exact .inl ⟨s, rfl, hsilent⟩
    · right
      intro entry current profile prior next hentry hcurrent h
      obtain ⟨opinion, hopinion, h⟩ := Fault.bind_eq_ok.1 h
      cases opinion with
      | none => exact absurd hopinion (hspoken entry current false)
      | some candidate =>
        cases h
        have hcandidate := StopStrategy.pos_of_stop hentry hcurrent s hopinion
        exact pos_tighten hcandidate false prior

/-! ## Lineages -/

/-- The stops for a sequence of prices and profiles, each with the one before it as the prior
stop. -/
def lineage (t : Trailing) (isLong : Bool) (entry : Decimal) :
    Decimal → List (Decimal × TrailingProfile) → Except Fault (List Decimal)
  | _, [] => .ok []
  | prior, (current, profile) :: rest => do
    let stop ← t.stop ⟨entry, current, isLong, profile, prior⟩
    let later ← t.lineage isLong entry stop rest
    return stop :: later

theorem lineage_cons_eq_ok {t : Trailing} {isLong : Bool} {entry prior current : Decimal}
    {profile : TrailingProfile} {rest : List (Decimal × TrailingProfile)} {stops : List Decimal}
    (h : t.lineage isLong entry prior ((current, profile) :: rest) = .ok stops) :
    ∃ stop later, t.stop ⟨entry, current, isLong, profile, prior⟩ = .ok stop ∧
      t.lineage isLong entry stop rest = .ok later ∧ stops = stop :: later := by
  rw [lineage] at h
  obtain ⟨stop, hstop, h⟩ := Fault.bind_eq_ok.1 h
  obtain ⟨later, hlater, h⟩ := Fault.bind_eq_ok.1 h
  cases h
  exact ⟨stop, later, hstop, hlater, rfl⟩

/-- Along a lineage every stop that follows a positive one is no worse. -/
theorem isChain_lineage {t : Trailing} (ht : t.Standard) {isLong : Bool} {entry prior : Decimal}
    {steps : List (Decimal × TrailingProfile)} {stops : List Decimal}
    (h : t.lineage isLong entry prior steps = .ok stops) :
    (prior :: stops).IsChain fun stop next => .zero < stop → NoWorse isLong stop next := by
  induction steps generalizing prior stops with
  | nil =>
    cases h
    exact .singleton prior
  | cons step rest ih =>
    obtain ⟨stop, later, hstop, hlater, rfl⟩ := lineage_cons_eq_ok h
    exact .cons_cons (fun hprior => ht.noWorse hprior hstop) (ih hlater)

/-- A strategy without an opinion hands the prior stop on for ever. -/
theorem lineage_of_silent {s : StopStrategy} (hs : s.Silent) {isLong : Bool}
    {entry prior : Decimal} {steps : List (Decimal × TrailingProfile)} {stops : List Decimal}
    (h : s.ratchet.lineage isLong entry prior steps = .ok stops) : ∀ stop ∈ stops, stop = prior := by
  induction steps generalizing stops with
  | nil =>
    cases h
    simp
  | cons step rest ih =>
    obtain ⟨stop, later, hstop, hlater, rfl⟩ := lineage_cons_eq_ok h
    have hkept : stop = prior := by
      obtain ⟨opinion, hopinion, hstop⟩ := Fault.bind_eq_ok.1 hstop
      rw [hs] at hopinion
      cases hopinion
      cases hstop
      rfl
    subst hkept
    intro x hx
    rcases List.mem_cons.1 hx with rfl | hx
    · rfl
    · exact ih hlater x hx

/-- If every stop for positive prices is positive, then so are all stops of a lineage. -/
theorem pos_of_mem_lineage {t : Trailing} {entry : Decimal}
    (ht : ∀ current profile prior next, .zero < current →
      t.stop ⟨entry, current, false, profile, prior⟩ = .ok next → .zero < next)
    {prior : Decimal} {steps : List (Decimal × TrailingProfile)} {stops : List Decimal}
    (hprices : ∀ step ∈ steps, .zero < step.1)
    (h : t.lineage false entry prior steps = .ok stops) : ∀ stop ∈ stops, .zero < stop := by
  induction steps generalizing prior stops with
  | nil =>
    cases h
    simp
  | cons step rest ih =>
    obtain ⟨stop, later, hstop, hlater, rfl⟩ := lineage_cons_eq_ok h
    intro x hx
    rcases List.mem_cons.1 hx with rfl | hx
    · exact ht step.1 step.2 prior x (hprices step List.mem_cons_self) hstop
    · exact ih (fun later hmem => hprices later (List.mem_cons_of_mem step hmem)) hlater x hx

/-! ## Positive stops -/

theorem isChain_of_pos {stops : List Decimal} {isLong : Bool}
    (h : stops.IsChain fun stop next => .zero < stop → NoWorse isLong stop next)
    (hpos : ∀ stop ∈ stops, .zero < stop) : stops.IsChain (NoWorse isLong) :=
  h.imp_of_mem_imp fun stop _ hstop _ hworse => hworse (hpos stop hstop)

/-- The stops of a long position are all positive from the first positive one on. -/
theorem isChain_from_pos {stops : List Decimal}
    (h : stops.IsChain fun stop next => .zero < stop → NoWorse true stop next) :
    (stops.dropWhile fun stop => decide (stop ≤ .zero)).IsChain (NoWorse true) := by
  have hcarried : ∀ ⦃stop next : Decimal⦄,
      (.zero < stop → NoWorse true stop next) → .zero < stop → .zero < next := by
    intro stop next hworse hstop
    have hle : stop ≤ next := hworse hstop
    exact Decimal.pos_of_le hstop hle
  induction stops with
  | nil => exact .nil
  | cons stop rest ih =>
    by_cases hpos : .zero < stop
    · rw [List.dropWhile_cons_of_neg (by simpa using Decimal.not_le.2 hpos)]
      have hlater := h.cons_induction (fun stop => .zero < stop) rest hcarried hpos
      exact isChain_of_pos h (List.forall_mem_cons.2 ⟨hpos, hlater⟩)
    · rw [List.dropWhile_cons_of_pos (by simpa using Decimal.not_lt.1 hpos)]
      exact ih h.tail

/-- The rule of not giving ground, for every way of trailing and every sequence of prices and
profiles, where nothing overflows.  A long position's stops never fall from the first positive one
on.  A short position's stops, with positive prices, are all positive and never rise; or else there
is no stop at all, since the strategy never has an opinion. -/
theorem lineage_never_loosens {t : Trailing} (ht : t.Standard) (entry : Decimal)
    (steps : List (Decimal × TrailingProfile)) (stops : List Decimal) :
    (t.lineage true entry .zero steps = .ok stops →
      (stops.dropWhile fun stop => decide (stop ≤ .zero)).IsChain fun stop next => stop ≤ next) ∧
    (t.lineage false entry .zero steps = .ok stops → .zero < entry →
      (∀ step ∈ steps, .zero < step.1) →
      ((∃ s : StopStrategy, t = s.ratchet ∧ s.Silent) ∧ ∀ stop ∈ stops, stop = .zero) ∨
        (∀ stop ∈ stops, .zero < stop) ∧ stops.IsChain fun stop next => next ≤ stop) := by
  constructor
  · intro h
    exact isChain_from_pos (isChain_lineage ht h).tail
  · intro h hentry hprices
    rcases ht.silent_or_pos with ⟨s, rfl, hsilent⟩ | hpos
    · exact .inl ⟨⟨s, rfl, hsilent⟩, lineage_of_silent hsilent h⟩
    · right
      have hstops : ∀ stop ∈ stops, .zero < stop :=
        pos_of_mem_lineage (fun current profile prior next =>
          hpos entry current profile prior next hentry) hprices h
      exact ⟨hstops, isChain_of_pos (isChain_lineage ht h).tail hstops⟩

/-- A short position at 100 whose stop is the tighter of two percent and eight quarters: prices of 99,
97 and 98 give stops of 100.98, 98.94 and again 98.94. -/
theorem lineage_never_loosens_of_composite :
    let s : StopStrategy :=
      .composite [.percent ⟨false, 2, 2, by decide, by decide⟩, .ticks 8 .quarter]
    let steps : List (Decimal × TrailingProfile) :=
      [(.whole false 99 (by decide), .defaults),
        (.whole false 97 (by decide), ⟨.atrMultiple, .one, .zero⟩),
        (.whole false 98 (by decide), .defaults)]
    let stops : List Decimal :=
      [⟨false, 10098, 2, by decide, by decide⟩, ⟨false, 9894, 2, by decide, by decide⟩,
        ⟨false, 9894, 2, by decide, by decide⟩]
    s.ratchet.lineage false (.whole false 100 (by decide)) .zero steps = .ok stops ∧
      (∀ stop ∈ stops, .zero < stop) ∧ stops.IsChain fun stop next => next ≤ stop := by
  intro s steps stops
  have hstops : s.ratchet.lineage false (.whole false 100 (by decide)) .zero steps = .ok stops := by
    decide +kernel
  refine ⟨hstops, ?_⟩
  obtain ⟨-, hshort⟩ := lineage_never_loosens (.ratchet s) (.whole false 100 (by decide)) steps stops
  rcases hshort hstops (by decide) (by decide +kernel) with ⟨-, hzero⟩ | hpos
  · exact absurd (hzero _ List.mem_cons_self) (by decide)
  · exact hpos

end Trailing
end EntryGate
