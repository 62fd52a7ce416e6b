import EntryGate.Proofs.RuleTree
import Mathlib.Data.List.Basic

/-!
# The two questions to a tree of rules agree

A tree of rules can be asked about an intent, which stops at the first refusal, or be polled, which
asks every rule that no switch hides.  An intent that names a symbol is accepted exactly if the poll
allows trading, and both leave the same tree behind.  A refusal comes from the first checkpoint that
refuses, and what comes after it is not touched.

* `Checkpoint.walk` passes checkpoints one by one until one refuses.  `Rule.walk_evaluate` says that
  asking a tree is such a walk, whatever its form;
* `Rule.Agree` relates the two questions, by one case for each kind of rule;
* `Rule.evaluate_iff_poll` is the result for every tree and every history.
-/

namespace EntryGate

/-! ## One lockout -/

namespace Lockout

theorem refresh_of_locked {l : Lockout} {now : Instant} (h : l.isLockedAt now = true) :
    l.refresh now = l := by
  rw [refresh]
  cases hphase : l.phase with
  | clear => rfl
  | coolingDown => rfl
  | lockedOut t =>
    have hlate : now < t := by simpa [isLockedAt, hphase, LockoutPhase.expiry?] using h
    have hearly : ¬t ≤ now := by
      rw [Instant.not_le]
      exact hlate
    simp only [if_neg hearly]

/-- A poll lifts a lockout that has expired, and allows trading if that leaves no lockout. -/
theorem poll_eq (l : Lockout) (now : Instant) :
    l.poll now = (l.refresh now, !l.isLockedAt now) := by
  have hanswer : (l.poll now).2 = !l.isLockedAt now := by
    have hiff : (l.poll now).2 = false ↔ l.isLockedAt now = true := by
      rw [poll_eq_false_iff, isLockedAt]
      cases l.phase <;> simp [LockoutPhase.expiry?]
    cases hpoll : (l.poll now).2 with
    | true =>
      have hopen : ¬l.isLockedAt now = true := by
        rw [← hiff, hpoll]
        simp
      simp [hopen]
    | false => rw [hiff.1 hpoll, Bool.not_true]
  exact Prod.ext rfl hanswer

end Lockout

/-! ## Walks -/

namespace Checkpoint

/-- Passes checkpoints one by one, until one refuses or cannot answer. -/
def walk (now : Instant) : List Checkpoint → List Checkpoint × Except Fault (Option String)
  | [] => ([], .ok none)
  | c :: cs =>
    match c.refusal now with
    | .ok none => (c.passed now :: (walk now cs).1, (walk now cs).2)
    | answer => (c :: cs, answer)

theorem walk_append (now : Instant) (cs ds : List Checkpoint) :
    walk now (cs ++ ds) =
      match walk now cs with
      | (cs', .ok none) => (cs' ++ (walk now ds).1, (walk now ds).2)
      | (cs', answer) => (cs' ++ ds, answer) := by
  induction cs with
  | nil => rfl
  | cons c cs ih =>
    rw [List.cons_append, walk, walk]
    rcases hrefusal : c.refusal now with fault | _ | reason
    · rfl
    · rw [ih]
      rcases walk now cs with ⟨cs', fault | _ | reason⟩ <;> rfl
    · rfl

/-- Where a walk ends: the checkpoints before are passed, those after stay as they are. -/
theorem walk_of_refusal {now : Instant} {cs : List Checkpoint} {reason : String}
    (h : (walk now cs).2 = .ok (some reason)) :
    ∃ before c after, cs = before ++ c :: after ∧ (∀ b ∈ before, b.refusal now = .ok none) ∧
      c.refusal now = .ok (some reason) ∧
      (walk now cs).1 = before.map (passed now) ++ c :: after := by
  induction cs with
  | nil => cases h
  | cons first cs ih =>
    rw [walk] at h ⊢
    rcases hrefusal : first.refusal now with fault | _ | reason'
    · rw [hrefusal] at h
      cases h
    · rw [hrefusal] at h
      obtain ⟨before, c, after, rfl, hbefore, hc, hwalk⟩ := ih h
      refine ⟨first :: before, c, after, rfl, ?_, hc, ?_⟩
      · intro b hb
        rcases List.mem_cons.1 hb with rfl | hb
        · exact hrefusal
        · exact hbefore b hb
      · simp only [hwalk, List.map_cons, List.cons_append]
    · rw [hrefusal] at h
      cases h
      exact ⟨[], first, cs, rfl, by simp, hrefusal, rfl⟩

/-- A walk gives an answer if every checkpoint does. -/
theorem walk_returns {now : Instant} {cs : List Checkpoint}
    (h : ∀ c ∈ cs, ∃ answer, c.refusal now = .ok answer) :
    ∃ answer, (walk now cs).2 = .ok answer := by
  induction cs with
  | nil => exact ⟨none, rfl⟩
  | cons c cs ih =>
    obtain ⟨answer, hanswer⟩ := h c List.mem_cons_self
    rw [walk, hanswer]
    cases answer with
    | none => exact ih fun d hd => h d (List.mem_cons_of_mem c hd)
    | some reason => exact ⟨some reason, rfl⟩

end Checkpoint

namespace Rule

open Checkpoint (walk)

/-! ## Asking about an intent -/

theorem evaluate_lockout {intent : PositionIntent} (hsymbol : intent.symbol ≠ "") (now : Instant)
    (l : Lockout) :
    evaluate now intent (.lockout l) =
      (.lockout (l.refresh now), (Checkpoint.lockout l).refusal now) := by
  have hnamed : ¬intent.symbol.isEmpty = true := fun h => hsymbol (String.isEmpty_iff.1 h)
  rw [evaluate, Lockout.evaluate, if_neg hnamed, Lockout.poll_eq, Checkpoint.refusal]
  cases l.isLockedAt now <;> rfl

mutual

/-- Asking a tree is a walk past its checkpoints. -/
theorem walk_evaluate {intent : PositionIntent} (hsymbol : intent.symbol ≠ "") (now : Instant)
    (r : Rule) :
    walk now r.checkpoints = ((r.evaluate now intent).1.checkpoints, (r.evaluate now intent).2) := by
  cases r with
  | lockout l =>
    rw [evaluate_lockout hsymbol, checkpoints, walk, Checkpoint.refusal]
    cases hlocked : l.isLockedAt now with
    | true =>
      -- a lockout that refuses is not lifted
      rw [Lockout.refresh_of_locked hlocked]
      rfl
    | false => rfl
  | caps c =>
    rw [evaluate, checkpoints, walk, Checkpoint.refusal]
    rcases c.refusal with fault | _ | reason <;> rfl
  | guard g =>
    rw [evaluate, checkpoints, walk, Checkpoint.refusal, LossGuard.isBlocked]
    by_cases hblocked : g.maxLosses ≤ g.streak
    · rw [if_pos hblocked, if_pos (decide_eq_true hblocked)]
    · rw [if_neg hblocked, if_neg (by simpa using hblocked)]
      rfl
  | switch flags inner =>
    rw [evaluate, checkpoints, walk, Checkpoint.refusal]
    cases flags.refusal? with
    | some reason => rfl
    | none =>
      rw [walk_evaluate hsymbol now inner]
      rfl
  | chain mode rules =>
    rw [evaluate, checkpoints]
    exact walk_evaluateAll hsymbol now rules

theorem walk_evaluateAll {intent : PositionIntent} (hsymbol : intent.symbol ≠ "") (now : Instant)
    (rules : List Rule) :
    walk now (checkpointsAll rules) =
      (checkpointsAll (evaluateAll now intent rules).1, (evaluateAll now intent rules).2) := by
  cases rules with
  | nil => rfl
  | cons r rs =>
    rw [checkpointsAll, Checkpoint.walk_append, walk_evaluate hsymbol now r, evaluateAll]
    rcases evaluate now intent r with ⟨r', fault | _ | reason⟩
    · rfl
    · rw [walk_evaluateAll hsymbol now rs]
      rfl
    · rfl

end

/-! ## Both questions -/

/-- The answers to both questions are an acceptance together, and then leave the same behind. -/
structure Agree {σ : Type} (evaluated : σ × Except Fault (Option String))
    (polled : σ × Except Fault Bool) : Prop where
  accepts : evaluated.2 = .ok none ↔ polled.2 = .ok true
  state : evaluated.2 = .ok none → evaluated.1 = polled.1

/-- A list of rules accepts an intent if the first rule does, and then the others do. -/
theorem evaluateAll_accepts {now : Instant} {intent : PositionIntent} {r : Rule} {rs : List Rule} :
    (evaluateAll now intent (r :: rs)).2 = .ok none ↔
      (r.evaluate now intent).2 = .ok none ∧ (evaluateAll now intent rs).2 = .ok none := by
  rw [evaluateAll]
  rcases evaluate now intent r with ⟨r', fault | _ | reason⟩ <;> simp

theorem evaluateAll_of_accepts {now : Instant} {intent : PositionIntent} {r : Rule}
    {rs : List Rule} (h : (r.evaluate now intent).2 = .ok none) :
    (evaluateAll now intent (r :: rs)).1 =
      (r.evaluate now intent).1 :: (evaluateAll now intent rs).1 := by
  rw [evaluateAll]
  rcases hanswer : evaluate now intent r with ⟨r', answer⟩
  rw [hanswer] at h
  cases h
  rfl

/-- A list of rules allows trading if every rule does, and each of them is asked. -/
theorem pollAll_allows {now : Instant} {r : Rule} {rs : List Rule} :
    (pollAll now (r :: rs)).2 = .ok true ↔
      (r.poll now).2 = .ok true ∧ (pollAll now rs).2 = .ok true := by
  rw [pollAll]
  rcases poll now r with ⟨r', fault | here⟩
  · simp
  · rcases pollAll now rs with ⟨rs', fault | there⟩ <;> simp [Except.map]

theorem pollAll_of_answer {now : Instant} {r : Rule} {rs : List Rule} {here : Bool}
    (h : (r.poll now).2 = .ok here) :
    pollAll now (r :: rs) =
      ((r.poll now).1 :: (pollAll now rs).1, (pollAll now rs).2.map (here && ·)) := by
  rw [pollAll]
  rcases hanswer : poll now r with ⟨r', answer⟩
  rw [hanswer] at h
  cases h
  rfl

mutual

theorem agree {intent : PositionIntent} (hsymbol : intent.symbol ≠ "") (now : Instant) (r : Rule) :
    Agree (r.evaluate now intent) (r.poll now) := by
  cases r with
  | lockout l =>
    rw [evaluate_lockout hsymbol, poll, Lockout.poll_eq, Checkpoint.refusal]
    refine ⟨?_, fun _ => rfl⟩
    cases l.isLockedAt now <;> simp
  | caps c =>
    refine ⟨?_, fun _ => rfl⟩
    rw [evaluate, poll, CapsRule.refusal]
    rcases c.decision with fault | d
    · simp [bind, Except.bind, Except.map]
    · cases d <;> simp [bind, Except.bind, Except.map, pure, Except.pure, RiskDecision.isAllow]
  | guard g =>
    refine ⟨?_, fun _ => rfl⟩
    rw [evaluate, poll]
    cases g.isBlocked <;> simp
  | switch flags inner =>
    obtain ⟨haccepts, hstate⟩ := agree hsymbol now inner
    rw [evaluate, poll, SwitchFlags.isBlocked]
    cases flags.refusal? with
    | some reason => exact ⟨by simp, fun h => by simp at h⟩
    | none =>
      refine ⟨haccepts, ?_⟩
      intro h
      exact congrArg (Rule.switch flags) (hstate h)
  | chain mode rules =>
    obtain ⟨haccepts, hstate⟩ := agreeAll hsymbol now rules
    rw [evaluate, poll]
    refine ⟨haccepts, ?_⟩
    intro h
    exact congrArg (Rule.chain mode) (hstate h)

theorem agreeAll {intent : PositionIntent} (hsymbol : intent.symbol ≠ "") (now : Instant)
    (rules : List Rule) : Agree (evaluateAll now intent rules) (pollAll now rules) := by
  cases rules with
  | nil => exact ⟨by simp [evaluateAll, pollAll], fun _ => rfl⟩
  | cons r rs =>
    obtain ⟨hr, hstate⟩ := agree hsymbol now r
    obtain ⟨hrs, hstates⟩ := agreeAll hsymbol now rs
    refine ⟨?_, ?_⟩
    · rw [evaluateAll_accepts, pollAll_allows, hr, hrs]
    · intro h
      obtain ⟨hfirst, hothers⟩ := evaluateAll_accepts.1 h
      rw [evaluateAll_of_accepts hfirst, pollAll_of_answer (hr.1 hfirst), hstate hfirst,
        hstates hothers]

end

/-! ## Answers -/

/-- No caps of the tree meet a fault when they are checked. -/
def Computes (r : Rule) : Prop :=
  ∀ c, Checkpoint.caps c ∈ r.checkpoints → ∃ d, c.decision = .ok d

theorem Computes.refusal {r : Rule} (h : r.Computes) (now : Instant) :
    ∀ c ∈ r.checkpoints, ∃ answer, c.refusal now = .ok answer := by
  intro c hc
  cases c with
  | lockout l => exact ⟨_, rfl⟩
  | guard g => exact ⟨_, rfl⟩
  | switch flags => exact ⟨_, rfl⟩
  | caps caps =>
    obtain ⟨d, hd⟩ := h caps hc
    rw [Checkpoint.refusal, CapsRule.refusal, hd]
    exact ⟨_, rfl⟩

mutual

theorem poll_returns (now : Instant) (r : Rule) (h : r.Computes) :
    ∃ ok, (r.poll now).2 = .ok ok := by
  cases r with
  | lockout l => exact ⟨_, rfl⟩
  | guard g => exact ⟨_, rfl⟩
  | caps c =>
    obtain ⟨d, hd⟩ := h c (by simp [checkpoints])
    rw [poll, hd]
    exact ⟨_, rfl⟩
  | switch flags inner =>
    rw [poll]
    split
    · exact ⟨false, rfl⟩
    · refine poll_returns now inner ?_
      intro c hc
      exact h c (List.mem_cons_of_mem _ hc)
  | chain mode rules => exact pollAll_returns now rules h

theorem pollAll_returns (now : Instant) (rules : List Rule)
    (h : ∀ c, Checkpoint.caps c ∈ checkpointsAll rules → ∃ d, c.decision = .ok d) :
    ∃ ok, (pollAll now rules).2 = .ok ok := by
  cases rules with
  | nil => exact ⟨true, rfl⟩
  | cons r rs =>
    obtain ⟨here, hhere⟩ := poll_returns now r fun c hc => h c (List.mem_append_left _ hc)
    obtain ⟨there, hthere⟩ := pollAll_returns now rs fun c hc => h c (List.mem_append_right _ hc)
    rw [pollAll_of_answer hhere, hthere]
    exact ⟨here && there, rfl⟩

end

/-- A tree that has refused for a reason: it is that of the first checkpoint that refuses, the
checkpoints before have been passed, and everything else is as it was. -/
def RefusedFirst (now : Instant) (reason : String) (r r' : Rule) : Prop :=
  ∃ before c after, r.checkpoints = before ++ c :: after ∧
    (∀ b ∈ before, b.refusal now = .ok none) ∧ c.refusal now = .ok (some reason) ∧
    r'.checkpoints = before.map (Checkpoint.passed now) ++ c :: after ∧ r'.renewed = r.renewed

/-- After any history, a tree accepts an intent that names a symbol exactly if it allows trading, and
both questions then leave the same tree behind.  A refusal has a reason, which is that of the first
checkpoint to refuse.  Without a fault of the caps, both questions have answers. -/
theorem evaluate_iff_poll {first : Rule} (hfresh : first.Fresh) (past : List Event) (now : Instant)
    {intent : PositionIntent} (hsymbol : intent.symbol ≠ "") :
    let r := first.run past
    ((r.evaluate now intent).2 = .ok none ↔ (r.poll now).2 = .ok true) ∧
      ((r.evaluate now intent).2 = .ok none → (r.evaluate now intent).1 = (r.poll now).1) ∧
      (∀ reason, (r.evaluate now intent).2 = .ok (some reason) →
        reason ≠ "" ∧ RefusedFirst now reason r (r.evaluate now intent).1) ∧
      (r.Computes →
        (∃ answer, (r.evaluate now intent).2 = .ok answer) ∧ ∃ ok, (r.poll now).2 = .ok ok) := by
  intro r
  obtain ⟨haccepts, hstate⟩ := agree hsymbol now r
  have hwalk := walk_evaluate hsymbol now r
  refine ⟨haccepts, hstate, ?_, ?_⟩
  · intro reason hreason
    have hrefused : (walk now r.checkpoints).2 = .ok (some reason) := by rw [hwalk, hreason]
    obtain ⟨before, c, after, hsplit, hbefore, hc, hafter⟩ := Checkpoint.walk_of_refusal hrefused
    refine ⟨?_, before, c, after, hsplit, hbefore, hc, ?_, renewed_evaluate now intent r⟩
    · have htagged : c.Tagged := tagged_run hfresh past c (by rw [hsplit]; simp)
      exact Checkpoint.reason_ne_empty htagged hc
    · rw [← hafter, hwalk]
  · intro hcomputes
    obtain ⟨answer, hanswer⟩ := Checkpoint.walk_returns (hcomputes.refusal now)
    rw [hwalk] at hanswer
    exact ⟨⟨answer, hanswer⟩, poll_returns now r hcomputes⟩

/-- Two losses lock both lockouts of a nested tree and fill its guard.  After their expiry an entry is
refused by the guard behind the switch: the lockout before it has been lifted, and the one after it
is still there.  The poll does not allow trading either. -/
theorem evaluate_iff_poll_of_two_losses :
    let start : Instant := ⟨1756821600, 0, by decide, by decide, by decide⟩
    let lockout := Lockout.new .standard 1 (.ofMinutes 15)
    let locked : Lockout :=
      { lockout with streak := 2, phase := .lockedOut (start.addCapped (.ofMinutes 15)) }
    let guard := LossGuard.new 2 "two losses"
    let caps : CapsRule := ⟨{ RiskCaps.uncapped with trailingDrawdown := .ten }, .empty⟩
    let first : Rule := .chain .standard
      [ .lockout lockout,
        .switch .initial (.chain .standard [.guard guard, .lockout lockout]),
        .caps caps ]
    let past : List Event := [⟨start, [], .outcome false⟩, ⟨start, [], .outcome false⟩]
    let r := first.run past
    let now := start.addCapped (.ofMinutes 20)
    let intent : PositionIntent := ⟨"ES", .long⟩
    first.Fresh ∧ r.Computes ∧ (r.evaluate now intent).2 = .ok (some "two losses") ∧
      RefusedFirst now "two losses" r (r.evaluate now intent).1 ∧
      (r.evaluate now intent).1.checkpoints =
        [ .lockout lockout, .switch .initial, .guard { guard with streak := 2 }, .lockout locked,
          .caps caps ] ∧
      (r.poll now).2 = .ok false := by
  intro start lockout locked guard caps first past r now intent
  have hfresh : first.Fresh := by
    intro c hc
    have hplaces : first.checkpoints =
        [.lockout lockout, .switch .initial, .guard guard, .lockout lockout, .caps caps] := rfl
    simp only [hplaces, List.mem_cons, List.not_mem_nil, or_false] at hc
    rcases hc with rfl | rfl | rfl | rfl | rfl
    · exact ⟨_, _, _, rfl⟩
    · rfl
    · exact ⟨_, _, rfl⟩
    · exact ⟨_, _, _, rfl⟩
    · trivial
  have hcomputes : r.Computes := by
    intro c hc
    have hplaces : r.checkpoints =
        [ .lockout locked, .switch .initial, .guard { guard with streak := 2 }, .lockout locked,
          .caps caps ] := by decide +kernel
    simp only [hplaces, List.mem_cons, List.not_mem_nil, or_false, false_or, reduceCtorEq,
      Checkpoint.caps.injEq] at hc
    subst hc
    exact ⟨.allow, by decide +kernel⟩
  have hrefused : (r.evaluate now intent).2 = .ok (some "two losses") := by decide +kernel
  have hsymbol : intent.symbol ≠ "" := by decide
  obtain ⟨haccepts, -, hfirst, hreturns⟩ := evaluate_iff_poll hfresh past now hsymbol
  refine ⟨hfresh, hcomputes, hrefused, (hfirst _ hrefused).2, by decide +kernel, ?_⟩
  obtain ⟨-, ok, hok⟩ := hreturns hcomputes
  cases ok with
  | false => exact hok
  | true =>
    have haccepted := haccepts.2 hok
    rw [hrefused] at haccepted
    cases haccepted

end Rule
end EntryGate
