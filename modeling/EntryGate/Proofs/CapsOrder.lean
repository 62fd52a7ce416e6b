import EntryGate.Proofs.RoundedSums
import EntryGate.Risk.Caps

/-!
# Caps in a worse case

An account that is blocked stays blocked when its state gets worse and when its limits get tighter.
The block need not stay the same, since the first cap that is breached decides, but it does not move
to a later cap.  What can take its place is a fault: the drawdown of the worse state may be too large to
be computed, and then it is not compared with its limit.

* `RiskSnapshot.Worsens` and `RiskCaps.Tightens` compare accounts and limits.  A limit of zero is no
  limit, so a tighter limit is a smaller one only among those that are positive;
* `RiskCaps.Breached` says of one cap that it is breached, without the order of the caps.
  `RiskCaps.breached_of_evaluate` and `RiskCaps.evaluate_of_breached` relate it to the decision, and
  `RiskCaps.Breached.worsen` is the argument for each cap;
* `RiskCaps.block_stands` puts them together.
-/

namespace EntryGate

/-- The place of a decision in the order of the checks; an account may trade after all of them. -/
def RiskDecision.place : RiskDecision → Nat
  | .blockMaxContracts => 0
  | .blockDailyLoss => 1
  | .blockWeeklyLoss => 2
  | .blockTrailingDrawdown => 3
  | .allow => 4

/-- The second account is in no better a state than the first one. -/
structure RiskSnapshot.Worsens (s s' : RiskSnapshot) : Prop where
  quantity : s.accountQuantity ≤ s'.accountQuantity
  daily : s'.dailyPnl ≤ s.dailyPnl
  weekly : s'.weeklyPnl ≤ s.weeklyPnl
  equity : s'.equity ≤ s.equity
  peak : s.peakEquity ≤ s'.peakEquity

/-- How far the equity is below its highest value is rounded, and still no less in a worse state. -/
theorem RiskSnapshot.Worsens.drawdown_le {s s' : RiskSnapshot} (h : s.Worsens s') {x x' : Decimal}
    (hx : s.drawdown = .ok x) (hx' : s'.drawdown = .ok x') : x ≤ x' :=
  Decimal.sub_le_sub hx hx' h.peak h.equity

namespace RiskCaps

/-- If there is a first limit, then there is a second one that is no greater. -/
def LimitTightens (limit limit' : Decimal) : Prop :=
  .zero < limit → .zero < limit' ∧ limit' ≤ limit

instance (limit limit' : Decimal) : Decidable (LimitTightens limit limit') :=
  inferInstanceAs (Decidable (_ → _))

/-- The second caps are at least as strict as the first ones. -/
structure Tightens (c c' : RiskCaps) : Prop where
  contracts : 0 < c.maxContracts → 0 < c'.maxContracts ∧ c'.maxContracts ≤ c.maxContracts
  daily : LimitTightens c.dailyLossLimit c'.dailyLossLimit
  weekly : LimitTightens c.weeklyLossLimit c'.weeklyLossLimit
  drawdown : LimitTightens c.trailingDrawdown c'.trailingDrawdown

/-! ## One cap -/

/-- The cap behind a block is in force and breached. -/
def Breached (c : RiskCaps) (s : RiskSnapshot) : RiskDecision → Prop
  | .allow => False
  | .blockMaxContracts => 0 < c.maxContracts ∧ c.maxContracts < s.accountQuantity
  | .blockDailyLoss => lossReached c.dailyLossLimit s.dailyPnl = true
  | .blockWeeklyLoss => lossReached c.weeklyLossLimit s.weeklyPnl = true
  | .blockTrailingDrawdown =>
    .zero < c.trailingDrawdown ∧ ∃ x, s.drawdown = .ok x ∧ c.trailingDrawdown ≤ x

variable {c c' : RiskCaps} {s s' : RiskSnapshot} {d : RiskDecision}

theorem lossReached_iff {limit pnl : Decimal} :
    lossReached limit pnl = true ↔ .zero < limit ∧ limit ≤ pnl.neg := by
  simp [lossReached]

theorem lossReached_of_tightens {limit limit' pnl pnl' : Decimal} (h : LimitTightens limit limit')
    (hpnl : pnl' ≤ pnl) (hreached : lossReached limit pnl = true) :
    lossReached limit' pnl' = true := by
  rw [lossReached_iff] at hreached ⊢
  rcases h hreached.1 with ⟨hpos, hle⟩
  refine ⟨hpos, ?_⟩
  -- the greater loss is the one with the smaller result
  have hloss : pnl.neg ≤ pnl'.neg := by
    rw [Decimal.le_iff_units, Decimal.units_neg, Decimal.units_neg]
    exact Int.neg_le_neg hpnl
  exact Int.le_trans hle (Int.le_trans hreached.2 hloss)

/-- A cap that is breached is breached in a worse case, unless the drawdown cannot be computed. -/
theorem Breached.worsen (hcaps : c.Tightens c') (hsnapshot : s.Worsens s') (h : c.Breached s d) :
    c'.Breached s' d ∨
      (d = .blockTrailingDrawdown ∧ .zero < c'.trailingDrawdown ∧
        ∃ fault, s'.drawdown = .error fault) := by
  cases d with
  | allow => exact absurd h id
  | blockMaxContracts =>
    rcases h with ⟨hpos, hmore⟩
    rcases hcaps.contracts hpos with ⟨hpos', hle⟩
    have hquantity := hsnapshot.quantity
    exact .inl ⟨hpos', by omega⟩
  | blockDailyLoss => exact .inl (lossReached_of_tightens hcaps.daily hsnapshot.daily h)
  | blockWeeklyLoss => exact .inl (lossReached_of_tightens hcaps.weekly hsnapshot.weekly h)
  | blockTrailingDrawdown =>
    rcases h with ⟨hpos, x, hx, hreached⟩
    rcases hcaps.drawdown hpos with ⟨hpos', hle⟩
    cases hx' : s'.drawdown with
    | error fault => exact .inr ⟨rfl, hpos', fault, rfl⟩
    | ok x' =>
      have hdeeper : x ≤ x' := hsnapshot.drawdown_le hx hx'
      exact .inl ⟨hpos', x', hx', Int.le_trans hle (Int.le_trans hreached hdeeper)⟩

/-! ## All caps -/

/-- Only a cap that is breached blocks. -/
theorem breached_of_evaluate (h : c.evaluate s = .ok d) (hblock : d ≠ .allow) : c.Breached s d := by
  rw [evaluate] at h
  split at h
  · next hcontracts =>
    cases h
    exact hcontracts
  split at h
  · next hdaily =>
    cases h
    exact hdaily
  split at h
  · next hweekly =>
    cases h
    exact hweekly
  split at h
  · next hlimit =>
    rcases Fault.bind_eq_ok.1 h with ⟨x, hx, hdecision⟩
    split at hdecision
    · next hreached =>
      cases hdecision
      exact ⟨hlimit, x, hx, hreached⟩
    · cases hdecision
      exact absurd rfl hblock
  · cases h
    exact absurd rfl hblock

/-- The drawdown is looked at if it is limited, unless an earlier cap blocks. -/
theorem evaluate_of_limited (hlimit : .zero < c.trailingDrawdown) :
    (∃ d, c.evaluate s = .ok d ∧ d.place < RiskDecision.place .blockTrailingDrawdown) ∨
      c.evaluate s = s.drawdown >>= fun x =>
        .ok (if c.trailingDrawdown ≤ x then .blockTrailingDrawdown else .allow) := by
  rw [evaluate]
  split
  · exact .inl ⟨_, rfl, by decide⟩
  split
  · exact .inl ⟨_, rfl, by decide⟩
  split
  · exact .inl ⟨_, rfl, by decide⟩
  · -- the condition on the limit holds, so what is left is the drawdown itself
    exact .inr rfl

/-- A cap that is breached leads to a block, by itself or by an earlier cap. -/
theorem evaluate_of_breached (h : c.Breached s d) :
    ∃ d', c.evaluate s = .ok d' ∧ d'.place ≤ d.place := by
  cases d with
  | allow => exact absurd h id
  | blockMaxContracts =>
    have hcontracts : 0 < c.maxContracts ∧ c.maxContracts < s.accountQuantity := h
    rw [evaluate, if_pos hcontracts]
    exact ⟨_, rfl, Nat.le_refl _⟩
  | blockDailyLoss =>
    have hdaily : lossReached c.dailyLossLimit s.dailyPnl = true := h
    rw [evaluate]
    split
    · exact ⟨_, rfl, by decide⟩
    · exact ⟨_, rfl, Nat.le_refl _⟩
  | blockWeeklyLoss =>
    have hweekly : lossReached c.weeklyLossLimit s.weeklyPnl = true := h
    rw [evaluate]
    split
    · exact ⟨_, rfl, by decide⟩
    split
    · exact ⟨_, rfl, by decide⟩
    · exact ⟨_, rfl, Nat.le_refl _⟩
  | blockTrailingDrawdown =>
    rcases h with ⟨hlimit, x, hx, hreached⟩
    rcases evaluate_of_limited (s := s) hlimit with ⟨d', hd', hearlier⟩ | hevaluate
    · exact ⟨d', hd', Nat.le_of_lt hearlier⟩
    · refine ⟨.blockTrailingDrawdown, ?_, Nat.le_refl _⟩
      rw [hevaluate, hx]
      simp [bind, Except.bind, hreached]

/-- An account that is blocked is not allowed to trade in a worse state or under tighter caps.  If a
decision is made, it is the same block or an earlier one; and none is made only if the block was that of
the drawdown, which the worse state makes too large to be computed. -/
theorem block_stands (hcaps : c.Tightens c') (hsnapshot : s.Worsens s')
    (h : c.evaluate s = .ok d) (hblock : d ≠ .allow) :
    c'.evaluate s' ≠ .ok .allow ∧
      (∀ d', c'.evaluate s' = .ok d' → d'.place ≤ d.place) ∧
      ∀ fault, c'.evaluate s' = .error fault →
        d = .blockTrailingDrawdown ∧ s'.drawdown = .error fault := by
  have hlast : d.place < RiskDecision.place .allow := by
    cases d with
    | allow => exact absurd rfl hblock
    | _ => decide
  -- it is enough to know the place of a decision, or else where the fault comes from
  have houtcome : (∃ d', c'.evaluate s' = .ok d' ∧ d'.place ≤ d.place) ∨
      (d = .blockTrailingDrawdown ∧ ∃ fault, c'.evaluate s' = .error fault ∧
        s'.drawdown = .error fault) := by
    rcases (breached_of_evaluate h hblock).worsen hcaps hsnapshot with
      hbreached | ⟨rfl, hlimit, fault, hfault⟩
    · exact .inl (evaluate_of_breached hbreached)
    · rcases evaluate_of_limited (s := s') hlimit with ⟨d', hd', hearlier⟩ | hevaluate
      · exact .inl ⟨d', hd', Nat.le_of_lt hearlier⟩
      · refine .inr ⟨rfl, fault, ?_, hfault⟩
        rw [hevaluate, hfault]
        rfl
  rcases houtcome with ⟨d', hd', hplace⟩ | ⟨hd, fault, hfault, hdrawdown⟩
  · rw [hd']
    refine ⟨?_, ?_, ?_⟩
    · intro hallow
      cases hallow
      exact absurd hlast (Nat.not_lt.2 hplace)
    · intro other hother
      cases hother
      exact hplace
    · intro fault hfault
      cases hfault
  · rw [hfault]
    refine ⟨?_, ?_, ?_⟩
    · intro hallow
      cases hallow
    · intro other hother
      cases hother
    · intro other hother
      cases hother
      exact ⟨hd, hdrawdown⟩

/-- An account that is 600 below its highest equity, under a limit of 500 on the drawdown.  With a
greater loss of the day and a limit for it, the block is that of the day; and with the greatest equity
that there is behind it and debts, the drawdown cannot be computed any more. -/
theorem block_stands_of_drawdown :
    let amount (negative : Bool) (n : Nat) : Decimal :=
      if h : n < power 2 96 then .whole negative n h else .zero
    let c : RiskCaps := ⟨0, .zero, .zero, amount false 500⟩
    let s : RiskSnapshot := ⟨2, amount false 400, amount false 1000, amount true 100, .zero⟩
    let c' : RiskCaps := ⟨0, amount false 300, .zero, amount false 500⟩
    let s' : RiskSnapshot := ⟨2, amount false 150, amount false 1000, amount true 350, .zero⟩
    let ruined : RiskSnapshot :=
      ⟨2, amount true 1, amount false 79228162514264337593543950335, amount true 100, .zero⟩
    c.evaluate s = .ok .blockTrailingDrawdown ∧
      (c'.evaluate s' = .ok .blockDailyLoss ∧
        RiskDecision.place .blockDailyLoss ≤ RiskDecision.place .blockTrailingDrawdown) ∧
      c.evaluate ruined ≠ .ok .allow ∧ ruined.drawdown = .error .subtractionOverflow := by
  intro amount c s c' s' ruined
  have hcaps : c.Tightens c' := ⟨by decide, by decide, by decide, by decide⟩
  have hsame : c.Tightens c := ⟨by decide, by decide, by decide, by decide⟩
  have hworse : s.Worsens s' := ⟨by decide, by decide, by decide, by decide, by decide⟩
  have hruined : s.Worsens ruined := ⟨by decide, by decide, by decide, by decide, by decide⟩
  have hblock : c.evaluate s = .ok .blockTrailingDrawdown := by decide
  have hdaily : c'.evaluate s' = .ok .blockDailyLoss := by decide
  have hfault : c.evaluate ruined = .error .subtractionOverflow := by decide
  rcases block_stands hcaps hworse hblock (by decide) with ⟨-, hplace, -⟩
  rcases block_stands hsame hruined hblock (by decide) with ⟨hnever, -, hdrawdown⟩
  exact ⟨hblock, ⟨hdaily, hplace _ hdaily⟩, hnever, (hdrawdown _ hfault).2⟩

end RiskCaps

end EntryGate
