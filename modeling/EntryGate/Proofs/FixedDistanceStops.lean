import EntryGate.Proofs.RoundedSums
import EntryGate.Proofs.TrailingLineage

/-!
# Stops at a fixed distance

A position that is trailed at a fixed distance has its stop at that distance from the best price that
it has seen, the entry among them.  The first stop is no exception: it is held against the stop at the
distance from the entry, but where the price has moved in favour of the position already, it is the
tighter one of the price that counts.

The stop is computed step by step, and every step may round.  That the result is the one for the best
price rests on the order of rounded sums, and on the stops being positive: a stop that is not positive
is taken for none.

* `Decimal.favour` counts a price in the direction in which a position gains, so that both sides of the
  market are one case;
* `FixedDistance.first_stop_not_tighter_iff` says when the first stop is not tighter than the one at
  the distance from the entry, and `FixedDistance.first_stop_tighter_than_floor` is one that is;
* `StopTracker.StandsAt.update` is the step of one price, and `StopTracker.standsAt_followed` the
  sequence as a whole;
* `StopTracker.stop_at_extreme` is the stop after a sequence of prices, whatever their order.
-/

namespace EntryGate

open StopStrategy (tighter)

/-! ## The direction of a position -/

namespace Decimal

/-- A price counted in the direction in which a position gains: upwards for a long position, and
downwards for a short one. -/
def favour (isLong : Bool) (a : Decimal) : Int :=
  if isLong then a.units else -a.units

variable {isLong : Bool} {a b : Decimal}

theorem noWorse_iff_favour : NoWorse isLong a b ↔ a.favour isLong ≤ b.favour isLong := by
  cases isLong with
  | true => exact Iff.rfl
  | false => exact Int.neg_le_neg_iff.symm

theorem favour_tighter (isLong : Bool) (a b : Decimal) :
    (tighter isLong a b).favour isLong = max (a.favour isLong) (b.favour isLong) := by
  cases isLong with
  | true => exact units_max a b
  | false =>
    have hlower : (tighter false a b).favour false = -(a.min b).units := rfl
    have ha : a.favour false = -a.units := rfl
    have hb : b.favour false = -b.units := rfl
    rw [hlower, ha, hb, units_min]
    omega

theorem tighter_eq_or (isLong : Bool) (a b : Decimal) :
    tighter isLong a b = a ∨ tighter isLong a b = b := by
  cases isLong with
  | true => exact max_eq_or a b
  | false => exact min_eq_or a b

theorem units_eq_of_favour (h : a.favour isLong = b.favour isLong) : a.units = b.units := by
  cases isLong with
  | true => exact h
  | false => exact Int.neg_inj.1 h

theorem favour_eq_of_units (isLong : Bool) (h : a.units = b.units) :
    a.favour isLong = b.favour isLong := by
  rw [favour, favour, h]

end Decimal

/-- A positive prior stop is held against the candidate. -/
theorem tighten_of_pos {prior : Decimal} (h : .zero < prior) (isLong : Bool) (candidate : Decimal) :
    tighten isLong prior candidate = tighter isLong prior candidate := by
  rw [tighten, if_neg (Decimal.not_le.2 h)]
  rfl

/-! ## One stop -/

namespace FixedDistance

/-- The stop at a distance from a price: below it for a long position, and above it for a short one. -/
def offset (isLong : Bool) (distance price : Decimal) : Except Fault Decimal :=
  if isLong then price.sub distance else price.add distance

variable {e : FixedDistance} {q : StopQuery} {isLong : Bool} {d a b x y floor candidate stop : Decimal}

/-- A more favourable price has a stop that is not looser. -/
theorem offset_mono (hx : offset isLong d a = .ok x) (hy : offset isLong d b = .ok y)
    (hle : a.favour isLong ≤ b.favour isLong) : x.favour isLong ≤ y.favour isLong := by
  cases isLong with
  | true => exact Decimal.sub_mono hx hy hle
  | false => exact Int.neg_le_neg (Decimal.add_mono hy hx (Int.neg_le_neg_iff.1 hle))

/-- The stop of the better of two prices is the tighter of their stops. -/
theorem offset_tighter (hx : offset isLong d a = .ok x) (hy : offset isLong d b = .ok y) :
    ∃ z, offset isLong d (tighter isLong a b) = .ok z ∧
      z.favour isLong = max (x.favour isLong) (y.favour isLong) := by
  have hbest := Decimal.favour_tighter isLong a b
  rcases Decimal.tighter_eq_or isLong a b with hkept | htaken
  · rw [hkept] at hbest ⊢
    have hle := offset_mono hy hx (by omega)
    exact ⟨x, hx, by omega⟩
  · rw [htaken] at hbest ⊢
    have hle := offset_mono hx hy (by omega)
    exact ⟨y, hy, by omega⟩

/-- The stop, once the distance and both offsets are computed. -/
theorem stop_of_offsets (hd : e.distance q.profile = .ok d)
    (hcandidate : offset q.isLong d q.current = .ok candidate)
    (hfloor : offset q.isLong d q.entry = .ok floor) :
    e.stop q = .ok (tighten q.isLong (if q.prior ≤ .zero then floor else q.prior) candidate) := by
  have hsteps : e.stop q = e.distance q.profile >>= fun d =>
      offset q.isLong d q.current >>= fun candidate =>
        offset q.isLong d q.entry >>= fun floor =>
          .ok (tighten q.isLong (if q.prior ≤ .zero then floor else q.prior) candidate) := rfl
  rw [hsteps, hd]
  show (offset q.isLong d q.current >>= _) = _
  rw [hcandidate]
  show (offset q.isLong d q.entry >>= _) = _
  rw [hfloor]
  rfl

/-- The first stop is held against the one at the distance from the entry, unless that is not
positive. -/
theorem first_stop_eq (hprior : q.prior ≤ .zero) (h : e.stop q = .ok stop) :
    ∃ d floor candidate, e.distance q.profile = .ok d ∧ offset q.isLong d q.entry = .ok floor ∧
      offset q.isLong d q.current = .ok candidate ∧
      stop = if .zero < floor then tighter q.isLong floor candidate else candidate := by
  obtain ⟨d, floor, candidate, hd, hcandidate, hfloor, rfl⟩ := stop_eq_ok h
  refine ⟨d, floor, candidate, hd, hfloor, hcandidate, ?_⟩
  rw [if_pos hprior]
  by_cases hpos : .zero < floor
  · rw [if_pos hpos, tighten_of_pos hpos]
  · rw [if_neg hpos, tighten_of_not_pos hpos]

/-- The first stop, and its exact relation to the stop at the distance from the entry.  It is not
tighter than that exactly if the stop at the distance from the current price is not; so it never is as
long as the price has not moved in favour of the position. -/
theorem first_stop_not_tighter_iff (hprior : q.prior ≤ .zero) (h : e.stop q = .ok stop) :
    ∃ d floor candidate, e.distance q.profile = .ok d ∧ offset q.isLong d q.entry = .ok floor ∧
      offset q.isLong d q.current = .ok candidate ∧
      (stop = if .zero < floor then tighter q.isLong floor candidate else candidate) ∧
      (NoWorse q.isLong stop floor ↔ NoWorse q.isLong candidate floor) ∧
      (NoWorse q.isLong q.current q.entry → NoWorse q.isLong stop floor) := by
  obtain ⟨d, floor, candidate, hd, hfloor, hcandidate, hstop⟩ := first_stop_eq hprior h
  have hexact : NoWorse q.isLong stop floor ↔ NoWorse q.isLong candidate floor := by
    rw [hstop]
    by_cases hpos : .zero < floor
    · rw [if_pos hpos, Decimal.noWorse_iff_favour, Decimal.noWorse_iff_favour,
        Decimal.favour_tighter]
      omega
    · rw [if_neg hpos]
  refine ⟨d, floor, candidate, hd, hfloor, hcandidate, hstop, hexact, ?_⟩
  intro hadverse
  rw [hexact, Decimal.noWorse_iff_favour]
  exact offset_mono hcandidate hfloor (Decimal.noWorse_iff_favour.1 hadverse)

/-- A long position at 100 with a distance of eight quarters, and a price that has fallen to 99: the
first stop is at 98. -/
theorem first_stop_not_tighter_of_setback :
    let e : FixedDistance := ⟨.quarter⟩
    let q : StopQuery := ⟨.whole false 100 (by decide), .whole false 99 (by decide), true,
      ⟨.fixedTicks, .whole false 8 (by decide), .zero⟩, .zero⟩
    let floor : Decimal := ⟨false, 9800, 2, by decide, by decide⟩
    offset true ⟨false, 200, 2, by decide, by decide⟩ q.entry = .ok floor ∧
      ∃ stop, e.stop q = .ok stop ∧ stop ≤ floor := by
  intro e q floor
  have hstop : e.stop q = .ok floor := by decide
  have hdistance : e.distance q.profile = .ok ⟨false, 200, 2, by decide, by decide⟩ := by decide
  have hoffset : offset true ⟨false, 200, 2, by decide, by decide⟩ q.entry = .ok floor := by decide
  obtain ⟨d, x, candidate, hd, hx, -, -, -, hsafe⟩ :=
    first_stop_not_tighter_iff (e := e) (q := q) (by decide) hstop
  cases hdistance.symm.trans hd
  cases hoffset.symm.trans hx
  exact ⟨hoffset, floor, hstop, hsafe (by decide)⟩

/-- A first stop that is tighter than the one at the distance from the entry.  The position was
entered at 100, the distance is 2 and the price is 110: the stop is at 108, and not at 98. -/
theorem first_stop_tighter_than_floor :
    let e : FixedDistance := ⟨.one⟩
    let profile : TrailingProfile := ⟨.fixedTicks, .whole false 2 (by decide), .zero⟩
    let q : StopQuery :=
      ⟨.whole false 100 (by decide), .whole false 110 (by decide), true, profile, .zero⟩
    q.prior ≤ .zero ∧ e.distance profile = .ok (.whole false 2 (by decide)) ∧
      q.entry.sub (.whole false 2 (by decide)) = .ok (.whole false 98 (by decide)) ∧
      e.stop q = .ok (.whole false 108 (by decide)) ∧
      ¬Decimal.whole false 108 (by decide) ≤ .whole false 98 (by decide) := by
  decide

end FixedDistance

/-! ## Sequences of prices -/

namespace StopTracker

open FixedDistance (offset)

/-- The best of the entry and a sequence of prices: the highest for a long position, and the lowest for
a short one. -/
def extreme (isLong : Bool) (entry : Decimal) (prices : List Decimal) : Decimal :=
  prices.foldl (tighter isLong) entry

theorem extreme_append_singleton (isLong : Bool) (entry : Decimal) (prices : List Decimal)
    (price : Decimal) :
    extreme isLong entry (prices ++ [price]) = tighter isLong (extreme isLong entry prices) price := by
  rw [extreme, List.foldl_append]
  rfl

theorem extreme_mem (isLong : Bool) (entry : Decimal) (prices : List Decimal) :
    extreme isLong entry prices ∈ entry :: prices := by
  induction prices using List.reverseRecOn with
  | nil => exact List.mem_singleton_self entry
  | append_singleton prices price ih =>
    rw [extreme_append_singleton, ← List.cons_append]
    rcases Decimal.tighter_eq_or isLong (extreme isLong entry prices) price with hkept | htaken
    · rw [hkept]
      exact List.mem_append_left _ ih
    · rw [htaken]
      exact List.mem_append_right _ (List.mem_singleton_self price)

theorem favour_le_extreme {isLong : Bool} {entry p : Decimal} {prices : List Decimal}
    (hp : p ∈ entry :: prices) : p.favour isLong ≤ (extreme isLong entry prices).favour isLong := by
  induction prices using List.reverseRecOn with
  | nil =>
    rw [List.mem_singleton.1 hp]
    exact Int.le_refl _
  | append_singleton prices price ih =>
    rw [extreme_append_singleton, Decimal.favour_tighter]
    rw [← List.cons_append, List.mem_append, List.mem_singleton] at hp
    rcases hp with hbefore | rfl
    · exact Int.le_trans (ih hbefore) (Int.le_max_left _ _)
    · exact Int.le_max_right _ _

/-- More prices that are no better leave the best one what it is. -/
theorem favour_extreme_eq {isLong : Bool} {entry : Decimal} {prices others : List Decimal}
    (hsubset : prices ⊆ others)
    (hno : ∀ p ∈ others, NoWorse isLong p (extreme isLong entry prices)) :
    (extreme isLong entry others).favour isLong = (extreme isLong entry prices).favour isLong := by
  apply Int.le_antisymm
  · rcases List.mem_cons.1 (extreme_mem isLong entry others) with hentry | hother
    · rw [hentry]
      exact favour_le_extreme List.mem_cons_self
    · exact Decimal.noWorse_iff_favour.1 (hno _ hother)
  · exact favour_le_extreme (List.cons_subset_cons entry hsubset (extreme_mem isLong entry prices))

/-- No action of the run ends in a fault: every one of them returns a stop. -/
def Completes (t : StopTracker) (actions : List Action) : Prop :=
  (t.returned actions).length = actions.length

instance (t : StopTracker) (actions : List Action) : Decidable (t.Completes actions) :=
  inferInstanceAs (Decidable (_ = _))

theorem length_returned_le (t : StopTracker) (actions : List Action) :
    (t.returned actions).length ≤ actions.length := by
  induction actions generalizing t with
  | nil => exact Nat.le_refl 0
  | cons a rest ih =>
    rw [returned]
    split
    · exact Nat.succ_le_succ (ih _)
    · exact Nat.le_succ_of_le (ih _)

theorem completes_cons {t : StopTracker} {a : Action} {rest : List Action}
    (h : t.Completes (a :: rest)) :
    (∃ stop, (t.act a).2 = .ok stop) ∧ (t.act a).1.Completes rest := by
  rw [Completes, returned] at h
  cases hstop : (t.act a).2 with
  | ok stop =>
    rw [hstop] at h
    exact ⟨⟨stop, rfl⟩, Nat.succ_inj.1 h⟩
  | error fault =>
    rw [hstop] at h
    have hle := length_returned_le (t.act a).1 rest
    simp only [List.length_cons] at h
    omega

/-- A run changes nothing but the stop. -/
theorem exists_act_eq (t : StopTracker) (a : Action) :
    ∃ stop, (t.act a).1 = { t with stop := stop } := by
  cases h : (t.act a).2 with
  | ok stop => exact ⟨some stop, (act_of_ok h).2⟩
  | error fault => exact ⟨t.stop, act_of_error h⟩

theorem exists_run_eq (t : StopTracker) (actions : List Action) :
    ∃ stop, t.run actions = { t with stop := stop } := by
  induction actions generalizing t with
  | nil => exact ⟨t.stop, rfl⟩
  | cons a rest ih =>
    obtain ⟨first, hfirst⟩ := t.exists_act_eq a
    obtain ⟨last, hlast⟩ := ih (t.act a).1
    refine ⟨last, ?_⟩
    show (t.act a).1.run rest = _
    rw [hlast, hfirst]

/-- The prices of a sequence, one after the other. -/
def feed (e : FixedDistance) (prices : List Decimal) : List Action :=
  prices.map (.update e.trailing)

/-- A new position that was followed through a sequence of prices. -/
def followed (e : FixedDistance) (isLong : Bool) (entry : Decimal) (profile : TrailingProfile)
    (prices : List Decimal) : StopTracker :=
  (new isLong entry profile).run (feed e prices)

section Followed

variable {e : FixedDistance} {t : StopTracker} {isLong : Bool} {entry d : Decimal}
  {profile : TrailingProfile} {prices : List Decimal}

/-- An update that returns a stop has computed one from its price. -/
theorem exists_stop_of_update {trailing : Trailing} {price stop : Decimal}
    (h : (t.act (.update trailing price)).2 = .ok stop) :
    ∃ next, trailing.stop ⟨t.entry, price, t.isLong, t.profile, t.prior⟩ = .ok next := by
  simp only [act, update] at h
  cases hnext : trailing.stop ⟨t.entry, price, t.isLong, t.profile, t.prior⟩ with
  | ok next => exact ⟨next, rfl⟩
  | error fault =>
    rw [hnext] at h
    cases h

/-- A run without a fault computes the distance, and the stop of every price and of the entry. -/
theorem offsets_of_completes (hne : prices ≠ []) (h : t.Completes (feed e prices)) :
    ∃ d, e.distance t.profile = .ok d ∧
      ∀ p ∈ t.entry :: prices, ∃ x, offset t.isLong d p = .ok x := by
  induction prices generalizing t with
  | nil => exact absurd rfl hne
  | cons price rest ih =>
    rcases completes_cons h with ⟨⟨stop, hstop⟩, hrest⟩
    rcases exists_stop_of_update hstop with ⟨next, hnext⟩
    rcases FixedDistance.stop_eq_ok hnext with ⟨d, floor, candidate, hd, hcandidate, hfloor, -⟩
    refine ⟨d, hd, ?_⟩
    rw [List.forall_mem_cons, List.forall_mem_cons]
    refine ⟨⟨floor, hfloor⟩, ⟨candidate, hcandidate⟩, ?_⟩
    by_cases hlast : rest = []
    · subst hlast
      simp
    · -- the rest is run with the same entry and profile, so its distance is the same one
      rcases ih hlast hrest with ⟨d', hd', hoffsets⟩
      rcases t.exists_act_eq (.update e.trailing price) with ⟨next, hact⟩
      rw [hact] at hd' hoffsets
      cases hd.symm.trans hd'
      exact fun p hp => hoffsets p (List.mem_cons_of_mem _ hp)

/-- The tracker stands at a level: its stop has that value, or it has no stop yet, and the level is the
stop at the distance from the entry. -/
def StandsAt (t : StopTracker) (d level : Decimal) : Prop :=
  match t.stop with
  | some stop => stop.units = level.units
  | none => offset t.isLong d t.entry = .ok level

/-- One price moves the tracker from a positive level to the tighter of that level and of the stop of
the price. -/
theorem StandsAt.update {level floor price candidate : Decimal} (h : t.StandsAt d level)
    (hpos : .zero < level) (hd : e.distance t.profile = .ok d)
    (hfloor : offset t.isLong d t.entry = .ok floor)
    (hcandidate : offset t.isLong d price = .ok candidate) :
    ∃ stop, (t.act (.update e.trailing price)).1.stop = some stop ∧
      stop.favour t.isLong = max (level.favour t.isLong) (candidate.favour t.isLong) := by
  have hnext := FixedDistance.stop_of_offsets (q := ⟨t.entry, price, t.isLong, t.profile, t.prior⟩)
    hd hcandidate hfloor
  have hact : (t.act (.update e.trailing price)).1.stop = some (tighten t.isLong t.prior
      (tighten t.isLong (if t.prior ≤ .zero then floor else t.prior) candidate)) := by
    simp only [act, StopTracker.update, FixedDistance.trailing, hnext, propose]
  refine ⟨_, hact, ?_⟩
  rw [StandsAt] at h
  cases hstop : t.stop with
  | none =>
    -- without a stop it is the one at the distance from the entry that is held
    rw [hstop] at h
    have hzero : Decimal.zero ≤ .zero := Int.le_refl _
    cases h.symm.trans hfloor
    rw [prior_of_none hstop, if_pos hzero, tighten_of_not_pos (Decimal.not_lt.2 hzero), tighten_of_pos hpos,
      Decimal.favour_tighter]
  | some stop =>
    rw [hstop] at h
    have hstopPos : .zero < stop := by
      rw [Decimal.lt_iff_units, h]
      exact hpos
    have hlevel : stop.favour t.isLong = level.favour t.isLong := Decimal.favour_eq_of_units _ h
    rw [prior_of_some hstop, if_neg (Decimal.not_le.2 hstopPos), tighten_of_pos hstopPos,
      tighten_of_pos hstopPos, Decimal.favour_tighter, Decimal.favour_tighter, hlevel]
    omega

theorem followed_append_singleton (e : FixedDistance) (isLong : Bool) (entry : Decimal)
    (profile : TrailingProfile) (prices : List Decimal) (price : Decimal) :
    followed e isLong entry profile (prices ++ [price]) =
      ((followed e isLong entry profile prices).act (.update e.trailing price)).1 := by
  rw [followed, feed, List.map_append, run, List.foldl_append]
  rfl

/-- Between a level at the entry and a last one, every level is positive: for a long position since the
first of them is, and for a short one since the last is. -/
theorem pos_of_between {floor level goal : Decimal} (hpos : .zero < if isLong then floor else goal)
    (hlow : floor.favour isLong ≤ level.favour isLong)
    (hhigh : level.favour isLong ≤ goal.favour isLong) : .zero < level := by
  cases isLong with
  | true => exact Decimal.pos_of_le hpos hlow
  | false => exact Decimal.pos_of_le hpos (Int.neg_le_neg_iff.1 hhigh)

/-- After a sequence of prices the tracker stands at the stop of the best of them. -/
theorem standsAt_followed {floor goal : Decimal} (hd : e.distance profile = .ok d)
    (hoffsets : ∀ p ∈ entry :: prices, ∃ x, offset isLong d p = .ok x)
    (hfloor : offset isLong d entry = .ok floor)
    (hgoal : offset isLong d (extreme isLong entry prices) = .ok goal)
    (hpos : .zero < if isLong then floor else goal) :
    (followed e isLong entry profile prices).StandsAt d goal ∧
      (prices ≠ [] → ∃ stop, (followed e isLong entry profile prices).stop = some stop) := by
  induction prices using List.reverseRecOn generalizing goal with
  | nil => exact ⟨hgoal, fun hne => absurd rfl hne⟩
  | append_singleton prices price ih =>
    rw [← List.cons_append] at hoffsets
    have hbefore : ∀ p ∈ entry :: prices, ∃ x, offset isLong d p = .ok x :=
      fun p hp => hoffsets p (List.mem_append_left _ hp)
    obtain ⟨level, hlevel⟩ := hbefore _ (extreme_mem isLong entry prices)
    obtain ⟨candidate, hcandidate⟩ :=
      hoffsets price (List.mem_append_right _ (List.mem_singleton_self price))
    -- the level before this price is positive too
    obtain ⟨last, hlast, hbest⟩ := FixedDistance.offset_tighter hlevel hcandidate
    rw [extreme_append_singleton] at hgoal
    cases hgoal.symm.trans hlast
    have hlow : floor.favour isLong ≤ level.favour isLong :=
      FixedDistance.offset_mono hfloor hlevel (favour_le_extreme List.mem_cons_self)
    have hlevelPos : .zero < level := pos_of_between hpos hlow (by omega)
    have hposBefore : .zero < if isLong then floor else level := by
      cases isLong with
      | true => exact hpos
      | false => exact hlevelPos
    obtain ⟨hstands, -⟩ := ih hbefore hlevel hposBefore
    obtain ⟨held, hheld⟩ := (new isLong entry profile).exists_run_eq (feed e prices)
    rw [followed_append_singleton]
    rw [followed, hheld] at hstands ⊢
    obtain ⟨stop, hstop, hfavour⟩ := hstands.update hlevelPos hd hfloor hcandidate
    refine ⟨?_, fun _ => ⟨stop, hstop⟩⟩
    rw [StandsAt, hstop]
    exact Decimal.units_eq_of_favour (hfavour.trans hbest.symm)

/-- The stop after a sequence of prices has the value of the stop of the best of them. -/
theorem stop_followed {floor goal : Decimal} (hne : prices ≠ []) (hd : e.distance profile = .ok d)
    (hoffsets : ∀ p ∈ entry :: prices, ∃ x, offset isLong d p = .ok x)
    (hfloor : offset isLong d entry = .ok floor)
    (hgoal : offset isLong d (extreme isLong entry prices) = .ok goal)
    (hpos : .zero < if isLong then floor else goal) :
    ∃ stop, (followed e isLong entry profile prices).stop = some stop ∧ stop.units = goal.units := by
  obtain ⟨hstands, hsome⟩ := standsAt_followed hd hoffsets hfloor hgoal hpos
  obtain ⟨stop, hstop⟩ := hsome hne
  rw [StandsAt, hstop] at hstands
  exact ⟨stop, hstop, hstands⟩

/-- Two sequences with equally good best prices lead to stops of the same value. -/
theorem stop_followed_congr {floor goal : Decimal} {others : List Decimal} (hne : others ≠ [])
    (hd : e.distance profile = .ok d)
    (hoffsets : ∀ p ∈ entry :: others, ∃ x, offset isLong d p = .ok x)
    (hfloor : offset isLong d entry = .ok floor)
    (hgoal : offset isLong d (extreme isLong entry prices) = .ok goal)
    (hpos : .zero < if isLong then floor else goal)
    (hbest : (extreme isLong entry others).favour isLong = (extreme isLong entry prices).favour isLong) :
    ∃ other, (followed e isLong entry profile others).stop = some other ∧
      other.units = goal.units := by
  obtain ⟨goal', hgoal'⟩ := hoffsets _ (extreme_mem isLong entry others)
  have hsame : goal'.favour isLong = goal.favour isLong :=
    Int.le_antisymm (FixedDistance.offset_mono hgoal' hgoal hbest.le)
      (FixedDistance.offset_mono hgoal hgoal' hbest.ge)
  have hunits : goal'.units = goal.units := Decimal.units_eq_of_favour hsame
  have hpos' : .zero < if isLong then floor else goal' := by
    cases isLong with
    | true => exact hpos
    | false => exact Decimal.pos_of_le hpos hunits.ge
  obtain ⟨other, hother, hvalue⟩ := stop_followed hne hd hoffsets hfloor hgoal' hpos'
  exact ⟨other, hother, hvalue.trans hunits⟩

theorem isTriggered_iff {stop goal : Decimal} (hstop : t.stop = some stop)
    (hunits : stop.units = goal.units) (p : Decimal) :
    t.isTriggered p = true ↔ if t.isLong then p ≤ goal else goal ≤ p := by
  rw [isTriggered, hstop]
  cases t.isLong with
  | true => simp [Decimal.le_iff_units, hunits]
  | false => simp [Decimal.le_iff_units, hunits]

/-- The stop of a new position after a sequence of prices, where nothing overflows: it has the value of
the stop at the distance from the best of the entry and the prices, which is a single operation on
decimals.  For a long position this needs the stop at the distance from the entry to be positive, and
for a short one the stop that is the result.  So the order of the prices does not matter, nor does any
repetition or insertion of prices that are no better, and the stop is reached at that value. -/
theorem stop_at_extreme (hne : prices ≠ [])
    (h : (new isLong entry profile).Completes (feed e prices)) :
    ∃ d floor goal, e.distance profile = .ok d ∧ offset isLong d entry = .ok floor ∧
      offset isLong d (extreme isLong entry prices) = .ok goal ∧
      (.zero < (if isLong then floor else goal) →
        ∃ stop, (followed e isLong entry profile prices).stop = some stop ∧
          stop.value = goal.value ∧
          (∀ p, (followed e isLong entry profile prices).isTriggered p = true ↔
            if isLong then p ≤ goal else goal ≤ p) ∧
          (∀ others, others.Perm prices →
            ∃ other, (followed e isLong entry profile others).stop = some other ∧
              other.value = stop.value) ∧
          ∀ others, prices ⊆ others →
            (∀ p ∈ others, NoWorse isLong p (extreme isLong entry prices)) →
            (new isLong entry profile).Completes (feed e others) →
            ∃ other, (followed e isLong entry profile others).stop = some other ∧
              other.value = stop.value) := by
  obtain ⟨d, hd, hoffsets⟩ := offsets_of_completes hne h
  obtain ⟨floor, hfloor⟩ := hoffsets entry List.mem_cons_self
  obtain ⟨goal, hgoal⟩ := hoffsets _ (extreme_mem isLong entry prices)
  refine ⟨d, floor, goal, hd, hfloor, hgoal, ?_⟩
  intro hpos
  obtain ⟨stop, hstop, hunits⟩ := stop_followed hne hd hoffsets hfloor hgoal hpos
  refine ⟨stop, hstop, Decimal.value_eq_of_units hunits, ?_, ?_, ?_⟩
  · intro p
    have htriggered := isTriggered_iff hstop hunits p
    rwa [followed, isLong_run] at htriggered
  · intro others hperm
    -- the prices are the same ones, so nothing overflows in their new order either
    have hoffsets' : ∀ p ∈ entry :: others, ∃ x, offset isLong d p = .ok x :=
      fun p hp => hoffsets p ((hperm.cons entry).mem_iff.1 hp)
    have hno : ∀ p ∈ others, NoWorse isLong p (extreme isLong entry prices) := by
      intro p hp
      rw [Decimal.noWorse_iff_favour]
      exact favour_le_extreme (List.mem_cons_of_mem entry (hperm.subset hp))
    have hbest := favour_extreme_eq hperm.symm.subset hno
    have hne' : others ≠ [] := fun hnil => hne (List.nil_perm.1 (hnil ▸ hperm))
    obtain ⟨other, hother, hgoal'⟩ :=
      stop_followed_congr hne' hd hoffsets' hfloor hgoal hpos hbest
    exact ⟨other, hother, Decimal.value_eq_of_units (hgoal'.trans hunits.symm)⟩
  · intro others hsubset hno hcompletes
    have hne' : others ≠ [] := fun hnil => hne (List.subset_nil.1 (hnil ▸ hsubset))
    obtain ⟨d', hd', hoffsets'⟩ := offsets_of_completes hne' hcompletes
    cases hd.symm.trans hd'
    obtain ⟨other, hother, hgoal'⟩ :=
      stop_followed_congr hne' hd hoffsets' hfloor hgoal hpos (favour_extreme_eq hsubset hno)
    exact ⟨other, hother, Decimal.value_eq_of_units (hgoal'.trans hunits.symm)⟩

end Followed

/-- A long position near the greatest price that there is, at a distance of 2.50.  The stops of its
prices have fractions, for which there is no room: 334 and 335 at the end both lead to a stop that ends
in 332, and so does the sequence in the other order. -/
theorem stop_at_extreme_of_rounded :
    let e : FixedDistance := ⟨.quarter⟩
    let entry : Decimal := .whole false 79228162514264337593543950334 (by decide)
    let prices : List Decimal :=
      [.whole false 79228162514264337593543950335 (by decide),
        .whole false 79228162514264337593543950333 (by decide)]
    let goal : Decimal := .whole false 79228162514264337593543950332 (by decide)
    (new true entry .defaults).Completes (feed e prices) ∧
      (∃ stop, (followed e true entry .defaults prices).stop = some stop ∧
        stop.value = goal.value) ∧
      ∃ other, (followed e true entry .defaults prices.reverse).stop = some other ∧
        other.value = goal.value := by
  intro e entry prices goal
  have hcompletes : (new true entry .defaults).Completes (feed e prices) := by decide +kernel
  have hdistance : e.distance .defaults = .ok ⟨false, 250, 2, by decide, by decide⟩ := by decide
  have hfloor : offset true ⟨false, 250, 2, by decide, by decide⟩ entry = .ok goal := by
    decide +kernel
  have hgoal : offset true ⟨false, 250, 2, by decide, by decide⟩ (extreme true entry prices) =
      .ok goal := by
    decide +kernel
  obtain ⟨d, floor, x, hd, hfloor', hx, hclosed⟩ := stop_at_extreme (by decide) hcompletes
  cases hdistance.symm.trans hd
  cases hfloor.symm.trans hfloor'
  cases hgoal.symm.trans hx
  obtain ⟨stop, hstop, hvalue, -, hperm, -⟩ := hclosed (by decide)
  obtain ⟨other, hother, hsame⟩ := hperm prices.reverse (List.reverse_perm prices)
  exact ⟨hcompletes, ⟨stop, hstop, hvalue⟩, other, hother, hsame.trans hvalue⟩

end StopTracker

end EntryGate
