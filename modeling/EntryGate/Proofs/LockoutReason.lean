import EntryGate.Proofs.EventStream
import EntryGate.Proofs.RuleAgreement
import EntryGate.Proofs.SizingBands

/-!
# The reason of the lockout

A gate that is locked out rejects an entry with a reason of its own.  The converse is not quite true: the
sizing gives the tag of its bracket as the reason for a quantity of zero, and settings may set that tag
to any text, the one of the lockout included.  Every other reason is a different text.

* `Gate.plan_of_locked` is the rejection, and `Gate.locked_of_evaluate` its converse among the risk
  rules;
* `Gate.tag_of_sizeReason` says which tag it takes for the sizing to give this reason;
* `Gate.locked_or_untraded_of_plan` puts both together for a plan.
-/

namespace EntryGate

/-- The reason for which a lockout refuses. -/
def Lockout.refusalText : String := "risk lockout in effect"

/-! ## Sizing -/

namespace Tier

theorem mem_appendTag {reason tag : String} {c : Char} (h : c ∈ reason.toList ∨ c ∈ tag.toList) :
    c ∈ (appendTag reason tag).toList := by
  rw [appendTag]
  split
  · next hempty =>
    rw [String.isEmpty_iff.1 hempty] at h
    simpa using h
  · rw [String.toList_append, String.toList_append, List.mem_append, List.mem_append]
    exact h.imp_left .inl

/-- The kind of clamp can be read in the reason. -/
theorem mem_clampedReason {marker : String} {c : Char} (h : c ∈ marker.toList) (t : Tier)
    (reason : String) : c ∈ (t.clampedReason reason marker).toList := by
  have hmarker : c ∈ (appendTag reason marker).toList := mem_appendTag (.inr h)
  rw [clampedReason]
  split
  · exact hmarker
  · exact mem_appendTag (.inl hmarker)

/-- The reason of a lockout is not that of a clamp, which has a capital letter in it. -/
theorem clamp_snd_eq_refusalText {t : Tier} {quantity : Nat} {reason : String}
    (h : (t.clamp quantity reason).2 = Lockout.refusalText) : reason = Lockout.refusalText := by
  have hclamped : ∀ marker : String, 'C' ∈ marker.toList →
      t.clampedReason reason marker ≠ Lockout.refusalText := by
    intro marker hmarker heq
    have hmem : 'C' ∈ (t.clampedReason reason marker).toList := mem_clampedReason hmarker t reason
    rw [heq] at hmem
    revert hmem
    decide
  rw [clamp] at h
  split at h
  · exact absurd h (hclamped "ClampedMin" (by decide))
  · split at h
    · exact absurd h (hclamped "ClampedMax" (by decide))
    · exact h

end Tier

/-- The sizing of a gate gives the reason of a lockout only if this is the tag of its bracket. -/
theorem Gate.tag_of_sizeReason {s : Settings} {intent : PositionIntent} {mode : RiskMode}
    (h : Planner.sizeReason ((sizingOf s).decide intent mode) = Lockout.refusalText) :
    s.sizing.bracket.tag = Lockout.refusalText := by
  rw [Planner.sizeReason] at h
  split at h
  · exact absurd h (by decide)
  have hraw : ((sizingOf s).rawDecide intent mode).reason = Lockout.refusalText :=
    Tier.clamp_snd_eq_refusalText h
  rcases (sizingOf s).rawDecide_cases intent mode with ⟨before, rule, after, hrules, hrule, -⟩ | hfall
  · -- the only rule that there can be names the symbol in its reason
    have hmem : rule ∈ (sizingOf s).rules := by
      rw [hrules]
      exact List.mem_append_right before List.mem_cons_self
    rw [sizingOf] at hmem
    split at hmem
    · cases hmem
    rw [List.mem_singleton.1 hmem] at hrule
    rcases Option.map_eq_some_iff.1 hrule with ⟨quantity, -, hdecision⟩
    rw [← hdecision] at hraw
    have hfirst := congrArg (fun text : String => text.toList.head?) hraw
    revert hfirst
    simp [Lockout.refusalText]
  · rw [hfall.2] at hraw
    exact hraw

/-! ## Refusals -/

theorem SwitchFlags.refusal?_ne_refusalText (f : SwitchFlags) :
    f.refusal? ≠ some Lockout.refusalText := by
  cases f with
  | mk enabled manualLockout => cases enabled <;> cases manualLockout <;> decide

theorem RiskDecision.reason_ne_refusalText (d : RiskDecision) : d.reason ≠ Lockout.refusalText := by
  cases d <;> decide

/-- Among the checkpoints only a lockout refuses for its reason, unless a guard is tagged with it. -/
theorem Checkpoint.eq_lockout_of_refusal {c : Checkpoint} {now : Instant}
    (hguard : ∀ guard, c = .guard guard → guard.tag ≠ Lockout.refusalText)
    (h : c.refusal now = .ok (some Lockout.refusalText)) :
    ∃ l, c = .lockout l ∧ l.isLockedAt now = true := by
  cases c with
  | lockout l =>
    refine ⟨l, rfl, ?_⟩
    by_contra hfree
    rw [refusal, if_neg hfree] at h
    cases h
  | caps c =>
    rw [refusal, CapsRule.refusal] at h
    rcases Fault.bind_eq_ok.1 h with ⟨d, -, hdecision⟩
    split at hdecision
    · cases hdecision
    · exact absurd (Option.some.inj (Except.ok.inj hdecision)) d.reason_ne_refusalText
  | guard guard =>
    rw [refusal] at h
    split at h
    · exact absurd (Option.some.inj (Except.ok.inj h)) (hguard guard rfl)
    · cases h
  | switch flags => exact absurd (Except.ok.inj h) flags.refusal?_ne_refusalText

/-- A plan that is rejected was refused by some gate, for the reason of the plan. -/
theorem Planner.Reports.refusedAt {ρ : Type} {p : Planner ρ} {state : ρ} {r : EntryRequest}
    {plan : EntryPlan} {events : List DiagnosticEvent} (h : Reports p state r plan events)
    (hrejected : plan.accepted = false) : ∃ gate, RefusedAt p state r gate plan.reason := by
  cases h with
  | accepted haccepted =>
    rw [hrejected] at haccepted
    cases haccepted
  | refused _ hat _ => exact ⟨_, hat⟩
  | blocked _ hat _ => exact ⟨_, hat⟩

namespace Gate

/-! ## Risk -/

/-- The places where the rules of a gate can refuse. -/
theorem checkpoints_rule (g : Gate) :
    g.rule.checkpoints =
      .switch g.switch :: .lockout g.lockout :: .caps ⟨g.settings.caps, g.snapshot⟩ ::
        (g.lossGuard.map Checkpoint.guard).toList := by
  rw [rule, rules]
  cases g.lossGuard with
  | none => rfl
  | some guard => rfl

theorem evaluate_of_locked {g : Gate} {intent : PositionIntent} (hsymbol : intent.symbol ≠ "")
    (hswitch : g.switch.isBlocked = false) (hlocked : g.lockout.isLockedAt g.now = true) :
    (g.evaluate intent).2 = .ok (some Lockout.refusalText) := by
  have hfree : g.switch.refusal? = none := by
    simpa [SwitchFlags.isBlocked] using hswitch
  have hwalk : (Checkpoint.walk g.now g.rule.checkpoints).2 = .ok (some Lockout.refusalText) := by
    rw [checkpoints_rule]
    simp [Checkpoint.walk, Checkpoint.refusal, hfree, hlocked, Lockout.refusalText]
  rw [Rule.walk_evaluate hsymbol g.now g.rule] at hwalk
  exact hwalk

/-- Among the risk rules of a gate only the lockout gives its reason. -/
theorem locked_of_evaluate {g : Gate} {intent : PositionIntent} (hsymbol : intent.symbol ≠ "")
    (hguard : ∀ guard ∈ g.lossGuard, guard.tag ≠ Lockout.refusalText)
    (h : (g.evaluate intent).2 = .ok (some Lockout.refusalText)) :
    g.lockout.isLockedAt g.now = true := by
  have hwalk : (Checkpoint.walk g.now g.rule.checkpoints).2 = .ok (some Lockout.refusalText) := by
    rw [Rule.walk_evaluate hsymbol g.now g.rule]
    exact h
  rcases Checkpoint.walk_of_refusal hwalk with ⟨before, c, after, hsplit, -, hrefusal, -⟩
  have hmem : c ∈ g.rule.checkpoints := by
    rw [hsplit]
    exact List.mem_append_right before List.mem_cons_self
  rw [checkpoints_rule] at hmem
  have htagged : ∀ guard, c = .guard guard → guard.tag ≠ Lockout.refusalText := by
    rintro guard rfl
    refine hguard guard ?_
    simpa using hmem
  rcases Checkpoint.eq_lockout_of_refusal htagged hrefusal with ⟨l, rfl, hlocked⟩
  -- there is one lockout among the checkpoints
  have hsame : l = g.lockout := by
    simpa using hmem
  rw [← hsame]
  exact hlocked

/-! ## Plans -/

variable {g : Gate} {r : EntryRequest} {oco : String}

theorem plan_of_locked (hsymbol : r.symbol ≠ "") (hside : r.side ≠ .flat)
    (hswitch : g.switch.isBlocked = false) (hlocked : g.lockout.isLockedAt g.now = true) :
    (g.plan oco r).2 = .ok (.rejected Lockout.refusalText) := by
  have hrisk : (g.planner.risk g r.intent).2 = .ok (some Lockout.refusalText) :=
    evaluate_of_locked hsymbol hswitch hlocked
  have hfilled : ¬r.symbol.isEmpty = true := fun hempty => hsymbol (String.isEmpty_iff.1 hempty)
  have hsided : ¬r.side.isFlat = true := by simpa [Side.isFlat] using hside
  show (g.planner.build oco r g).plan = _
  rw [Planner.build, if_neg hfilled, if_neg hsided]
  rcases hanswer : g.planner.risk g r.intent with ⟨next, answer⟩
  rw [hanswer] at hrisk
  cases hrisk
  rfl

/-- A plan that is rejected for the reason of the lockout is so because of the lockout, or because
nothing is to be traded and the bracket has been given this very tag. -/
theorem locked_or_untraded_of_plan {s : Settings} {session : SessionGate} {past : List Action}
    (htracks : Tracks s session past g) (hsymbol : r.symbol ≠ "") {plan : EntryPlan}
    (h : (g.plan oco r).2 = .ok plan) (hrejected : plan.accepted = false)
    (hreason : plan.reason = Lockout.refusalText) :
    g.lockout.isLockedAt g.now = true ∨
      s.sizing.bracket.tag = Lockout.refusalText ∧
        (s.tiers.forMode s.riskMode).bounded (s.sizing.quantity r.symbol s.riskMode) = 0 := by
  have hguard : ∀ guard ∈ g.lossGuard, guard.tag ≠ Lockout.refusalText := by
    intro guard hmem
    rw [htracks.lossGuard] at hmem
    rcases Option.map_eq_some_iff.1 hmem with ⟨n, -, rfl⟩
    show LossGuard.defaultTag ≠ Lockout.refusalText
    decide
  have hreports := Planner.reports_build (fun _ _ => reason_of_refusal htracks hsymbol) h
  rcases hreports.refusedAt hrejected with ⟨gate, hat⟩
  generalize plan.reason = reason at hat hreason
  cases hat with
  | risk _ _ hrisk =>
    rw [hreason] at hrisk
    exact .inl (locked_of_evaluate hsymbol hguard hrisk)
  | sizing _ _ hzero =>
    right
    have hsizer : g.planner.sizer.decide r.intent g.planner.mode =
        (sizingOf s).decide r.intent s.riskMode := by
      show g.sizing.decide r.intent g.settings.riskMode = _
      rw [htracks.sizing, htracks.settings]
    rw [hsizer] at hreason hzero
    rw [quantity_sizingOf] at hzero
    exact ⟨tag_of_sizeReason hreason, hzero⟩
  | _ => exact absurd hreason (by decide)

end Gate
end EntryGate
