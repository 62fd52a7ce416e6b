import EntryGate.Command.Run
import EntryGate.Proofs.InstantOrder
import EntryGate.Proofs.LockoutReason
import EntryGate.Proofs.PlanningFootprint
import EntryGate.Proofs.RestoredValues
import EntryGate.Proofs.SettingsValidation
import Mathlib.Data.List.Infix

/-!
# A plan after a history of outcomes

A command replays a text of wins and losses on a new gate before it plans.  What its report says of the
lockout can be read off the text: whether there are as many losses in a row as the threshold says, in
any place, and how many there are at its end.  This takes a clock that goes forward and that does not get
to the end of a cooldown while the command runs.

* `Outcomes.ofChars_of_legal` and `Outcomes.ofChars_of_illegal` are what the reader makes of a text;
* `Outcomes.Told` is what holds of a lockout after a history, with a step for a win and one for a loss.
  `Outcomes.Replayed` is the same for a gate, and `Outcomes.Replayed.replay` the history as a whole;
* `SteadyClock` is the condition on the clock: by `SteadyClock.lt_addCapped` no lockout ends before the
  last reading;
* `PlanReport.Reflects` compares a report with a history, and `Invocation.plan_reflects_outcomes` is the
  result.
-/

namespace EntryGate

namespace Outcomes

/-! ## Texts -/

/-- The outcome that a character stands for. -/
def outcome? : Char → Option Bool
  | 'W' => some true
  | 'w' => some true
  | 'L' => some false
  | 'l' => some false
  | _ => none

/-- The characters that a history may have: outcomes and what separates them. -/
def Legal (c : Char) : Prop :=
  c ∈ ['W', 'w', 'L', 'l', ',', ' ']

instance (c : Char) : Decidable (Legal c) :=
  inferInstanceAs (Decidable (_ ∈ _))

/-- The outcomes of a text, without what separates them. -/
def history (text : String) : List Bool :=
  text.toList.filterMap outcome?

/-- What a legal character means. -/
def meaning (c : Char) : Mark :=
  match outcome? c with
  | some true => .win
  | some false => .loss
  | none => .separator

theorem mark?_of_legal {c : Char} (h : Legal c) : mark? c.toUpper = some (meaning c) := by
  simp only [Legal, List.mem_cons, List.not_mem_nil, or_false] at h
  rcases h with rfl | rfl | rfl | rfl | rfl | rfl <;> rfl

/-- Capital letters are 32 places before the small ones. -/
theorem toNat_toUpper (c : Char) :
    c.toUpper.toNat = if 97 ≤ c.toNat ∧ c.toNat ≤ 122 then c.toNat - 32 else c.toNat := by
  by_cases hsmall : 'a'.val ≤ c.val ∧ c.val ≤ 'z'.val
  · have hrange : 97 ≤ c.toNat ∧ c.toNat ≤ 122 := hsmall
    have hupper : ∃ hvalid, c.toUpper = ⟨c.val + ('A'.val - 'a'.val), hvalid⟩ :=
      ⟨_, dif_pos hsmall⟩
    rcases hupper with ⟨hvalid, hupper⟩
    -- the distance is added in 32 bits, and the sum wraps around
    have hsum : (c.val + ('A'.val - 'a'.val)).toNat = (c.toNat + 4294967264) % 4294967296 :=
      UInt32.toNat_add c.val ('A'.val - 'a'.val)
    rw [if_pos hrange, hupper]
    show (c.val + ('A'.val - 'a'.val)).toNat = _
    omega
  · have hrange : ¬(97 ≤ c.toNat ∧ c.toNat ≤ 122) := hsmall
    have hupper : c.toUpper = c := dif_neg hsmall
    rw [if_neg hrange, hupper]

/-- A character whose capital letter has a meaning is legal itself. -/
theorem legal_of_mark? {c : Char} {m : Mark} (h : mark? c.toUpper = some m) : Legal c := by
  have hupper : c.toUpper.toNat = 87 ∨ c.toUpper.toNat = 76 ∨ c.toUpper.toNat = 44 ∨
      c.toUpper.toNat = 32 := by
    unfold mark? at h
    -- one case for each row of the table
    split at h
    · simp [*]
    · simp [*]
    · simp [*]
    · simp [*]
    · cases h
  rw [toNat_toUpper] at hupper
  have hcode : c.toNat ∈ [87, 119, 76, 108, 44, 32] := by
    simp only [List.mem_cons, List.not_mem_nil, or_false]
    split at hupper <;> omega
  rw [← c.ofNat_toNat]
  generalize c.toNat = n at hcode
  revert n
  decide

theorem ofChars_of_legal {cs : List Char} (h : ∀ c ∈ cs, Legal c) :
    ofChars cs = .ok (cs.filterMap outcome?) := by
  induction cs with
  | nil => rfl
  | cons c cs ih =>
    have hrest := ih fun d hd => h d (List.mem_cons_of_mem c hd)
    rw [ofChars, mark?_of_legal (h c List.mem_cons_self), meaning, List.filterMap_cons, hrest]
    rcases outcome? c with _ | _ | _ <;> rfl

/-- The first character that is not legal is the one that is reported. -/
theorem ofChars_of_illegal {cs : List Char} {c : Char}
    (h : cs.find? (fun c => decide ¬Legal c) = some c) : ofChars cs = .error c.toUpper := by
  induction cs with
  | nil => cases h
  | cons d cs ih =>
    rw [List.find?_cons] at h
    rw [ofChars]
    by_cases hlegal : Legal d
    · have hrest : ofChars cs = .error c.toUpper := ih (by simpa [hlegal] using h)
      rw [mark?_of_legal hlegal, hrest]
      cases meaning d <;> rfl
    · have hnone : mark? d.toUpper = none := by
        rw [Option.eq_none_iff_forall_ne_some]
        intro m hm
        exact hlegal (legal_of_mark? hm)
      rw [hnone]
      have hsame : d = c := by simpa [hlegal] using h
      rw [hsame]

/-! ## Losses in a row -/

/-- The losses after the last win. -/
def lossesSinceWin (past : List Bool) : Nat :=
  (past.rtakeWhile fun win => !win).length

theorem lossesSinceWin_win (past : List Bool) : lossesSinceWin (past ++ [true]) = 0 := by
  rw [lossesSinceWin, List.rtakeWhile_concat_neg _ _ _ (by decide), List.length_nil]

theorem lossesSinceWin_loss (past : List Bool) :
    lossesSinceWin (past ++ [false]) = lossesSinceWin past + 1 := by
  rw [lossesSinceWin, List.rtakeWhile_concat_pos _ _ _ (by decide), List.length_append,
    List.length_singleton, lossesSinceWin]

theorem lossesSinceWin_eq_zero_iff (past : List Bool) :
    lossesSinceWin past = 0 ↔ past.getLast? ≠ some false := by
  induction past using List.reverseRecOn with
  | nil => simp [lossesSinceWin]
  | append_singleton past win _ =>
    cases win with
    | true => simp [lossesSinceWin_win]
    | false => simp [lossesSinceWin_loss]

/-- A history ends with so many losses, or with more. -/
theorem replicate_suffix_iff {k : Nat} {past : List Bool} :
    List.replicate k false <:+ past ↔ k ≤ lossesSinceWin past := by
  induction past using List.reverseRecOn generalizing k with
  | nil => simp [lossesSinceWin]
  | append_singleton past win ih =>
    cases k with
    | zero => simp
    | succ k =>
      rw [List.replicate_succ', List.suffix_concat_iff]
      cases win with
      | true => simp [lossesSinceWin_win]
      | false => simp [lossesSinceWin_loss, ih]

/-! ## The lockout -/

/-- A lockout that has been told a history, at one reading of the clock after the other: it is locked if
as many losses in a row as the threshold says are anywhere in the history, and then with the expiry
that goes with one of the readings. -/
structure Told (threshold : Nat) (cooldown : Span) (clock : Nat → Instant) (past : List Bool)
    (l : Lockout) : Prop where
  threshold_eq : l.threshold = threshold
  cooldown_eq : l.cooldown = cooldown
  streak : l.streak = min (lossesSinceWin past) Count.max
  phase : ∃ e, l.phase = Lockout.phaseOf e (lossesSinceWin past) ∧
    (e.isSome = true ↔ List.replicate threshold false <:+: past) ∧
    ∀ t ∈ e, ∃ i < past.length, t = (clock i).addCapped cooldown

section Lockout

variable {threshold : Nat} {cooldown : Span} {clock : Nat → Instant} {past : List Bool} {l : Lockout}

/-- There are enough losses in a row if they end here or if they were there before. -/
theorem replicate_infix_append_iff (win : Bool) :
    List.replicate threshold false <:+: past ++ [win] ↔
      threshold ≤ lossesSinceWin (past ++ [win]) ∨ List.replicate threshold false <:+: past := by
  rw [List.infix_concat_iff, replicate_suffix_iff]

/-- A win does not lift a lockout. -/
theorem Told.win (h : Told threshold cooldown clock past l) (hpos : 1 ≤ threshold) :
    Told threshold cooldown clock (past ++ [true]) l.recordWin := by
  rcases h.phase with ⟨e, hphase, hlocked, hexpiry⟩
  refine ⟨h.threshold_eq, h.cooldown_eq, ?_, e, ?_, ?_, ?_⟩
  · rw [lossesSinceWin_win]
    rfl
  · rw [lossesSinceWin_win]
    exact Lockout.phase_recordWin hphase
  · rw [hlocked, replicate_infix_append_iff, lossesSinceWin_win]
    simp only [Nat.not_le.2 hpos, false_or]
  · intro t ht
    rcases hexpiry t ht with ⟨i, hi, heq⟩
    exact ⟨i, Nat.lt_of_lt_of_le hi (by simp), heq⟩

/-- A loss at the threshold or above it locks, at the reading of this moment.  The threshold is a count,
so that it is reached before the streak stops growing. -/
theorem Told.loss (h : Told threshold cooldown clock past l) (hcount : threshold ≤ Count.max) :
    Told threshold cooldown clock (past ++ [false]) (l.recordLoss (clock past.length)) := by
  rcases h.phase with ⟨e, hphase, hlocked, hexpiry⟩
  rcases Lockout.recordLoss_of_phase hphase h.streak (clock past.length) with ⟨hstreak, hphase'⟩
  rw [← lossesSinceWin_loss] at hstreak hphase'
  have hreached : l.threshold ≤ min (lossesSinceWin (past ++ [false])) Count.max ↔
      threshold ≤ lossesSinceWin (past ++ [false]) := by
    rw [h.threshold_eq]
    omega
  simp only [hreached, h.cooldown_eq] at hphase'
  refine ⟨?_, ?_, hstreak, _, hphase', ?_, ?_⟩
  · rw [Lockout.threshold_recordLoss, h.threshold_eq]
  · rw [Lockout.cooldown_recordLoss, h.cooldown_eq]
  · rw [replicate_infix_append_iff, ← hlocked]
    split
    · next hnow => simp [hnow]
    · next hnot => simp [hnot]
  · -- a lockout that starts now has the expiry of now, and any other one keeps its own
    intro t ht
    split at ht
    · cases ht
      exact ⟨past.length, by simp, rfl⟩
    · rcases hexpiry t ht with ⟨i, hi, heq⟩
      exact ⟨i, Nat.lt_of_lt_of_le hi (by simp), heq⟩

end Lockout

/-! ## The gate -/

/-- A gate for settings that has been told a history. -/
structure Replayed (s : Settings) (clock : Nat → Instant) (past : List Bool) (g : Gate) : Prop where
  tracks : ∃ session actions, Gate.Tracks s session actions g
  switch : g.switch = .initial
  lockout : Told s.lockout.lossStreakThreshold (.ofMinutes s.lockout.cooldownMinutes) clock past
    g.lockout

section Gate

variable {s : Settings} {clock : Nat → Instant} {past : List Bool} {g : Gate}

theorem Replayed.setClock (h : Replayed s clock past g) (now : Instant) :
    Replayed s clock past (g.setClock now) := by
  rcases h.tracks with ⟨session, actions, htracks⟩
  exact ⟨⟨session, _, htracks.act (.setClock now)⟩, h.switch, h.lockout⟩

theorem Replayed.record (h : Replayed s clock past g) (hpos : 1 ≤ s.lockout.lossStreakThreshold)
    (hcount : s.lockout.lossStreakThreshold ≤ Count.max) (win : Bool) :
    Replayed s clock (past ++ [win]) ((g.setClock (clock past.length)).record win) := by
  rcases (h.setClock (clock past.length)).tracks with ⟨session, actions, htracks⟩
  refine ⟨⟨session, _, htracks.act (.outcome win)⟩, ?_, ?_⟩
  · rw [Gate.record_eq]
    exact h.switch
  · rw [Gate.record_eq]
    cases win with
    | true => exact h.lockout.win hpos
    | false => exact h.lockout.loss hcount

theorem Replayed.replay (h : Replayed s clock past g) (hpos : 1 ≤ s.lockout.lossStreakThreshold)
    (hcount : s.lockout.lossStreakThreshold ≤ Count.max) (rest : List Bool) :
    Replayed s clock (past ++ rest) (Outcomes.replay clock past.length rest g) := by
  induction rest generalizing past g with
  | nil =>
    rw [List.append_nil]
    exact h
  | cons win rest ih =>
    have hnext := ih (h.record hpos hcount win)
    rw [List.append_assoc, List.singleton_append, List.length_append, List.length_singleton] at hnext
    exact hnext

theorem replayed_ofSettings {zones : ZoneTable} {calendar : CalendarProvider} {start : Instant}
    (hs : s.repair = s) (h : Gate.ofSettings zones s calendar start = .ok g)
    (clock : Nat → Instant) :
    Replayed s clock [] g := by
  rcases Gate.lockout_of_ofSettings h with ⟨hsettings, hlockout⟩
  rw [hs] at hsettings
  rw [hsettings] at hlockout
  rcases Gate.tracks_ofSettings h with ⟨zone, htracks⟩
  rw [hs] at htracks
  have hpos : 1 ≤ s.lockout.lossStreakThreshold := by
    rw [← hs]
    exact s.repaired_repair.threshold
  refine ⟨⟨_, _, htracks⟩, ?_, ?_⟩
  · rcases Gate.eq_assemble_of_ofSettings h with ⟨zone, log, rfl⟩
    rfl
  · rw [hlockout]
    refine ⟨rfl, rfl, rfl, none, rfl, ?_, ?_⟩
    · simp [Nat.ne_of_gt hpos]
    · intro t ht
      cases ht

end Gate

end Outcomes

/-! ## The clock -/

/-- A clock that counts nanoseconds, never goes back, and up to its last reading neither gets through a
whole cooldown nor so far that another one would pass the end of time. -/
structure SteadyClock (clock : Nat → Instant) (cooldown : Span) (last : Nat) : Prop where
  counts : ∀ i ≤ last, ∃ n, clock i = .ofNanos n
  forward : ∀ i < last, clock i ≤ clock (i + 1)
  brief : (clock last).position < (clock 0).position + cooldown.nanos
  early : (clock last).position < Instant.latest.position - cooldown.nanos

/-- A clock that counts nanoseconds has no leap seconds. -/
theorem Instant.isLeap_ofNanos (n : Int) : (ofNanos n).isLeap = false := by
  rw [ofNanos, ofParts?]
  split
  · rw [Option.getD_some, isLeap_eq_false_iff]
    show (n % 1000000000).toNat < 1000000000
    omega
  · rfl

namespace SteadyClock

variable {clock : Nat → Instant} {cooldown : Span} {last : Nat}

theorem isLeap (h : SteadyClock clock cooldown last) {i : Nat} (hi : i ≤ last) :
    (clock i).isLeap = false := by
  rcases h.counts i hi with ⟨n, hn⟩
  rw [hn]
  exact Instant.isLeap_ofNanos n

theorem position_le (h : SteadyClock clock cooldown last) {i : Nat} (hi : i ≤ last) :
    (clock 0).position ≤ (clock i).position := by
  induction i with
  | zero => exact Int.le_refl _
  | succ i ih =>
    have hstep := (Instant.le_iff_position (h.isLeap (i := i) (by omega)) (h.isLeap hi)).1
      (h.forward i (by omega))
    exact Int.le_trans (ih (by omega)) hstep

/-- The last reading comes before the end of every cooldown that starts with a reading. -/
theorem lt_addCapped (h : SteadyClock clock cooldown last) (hcooldown : 0 ≤ cooldown.nanos) {i : Nat}
    (hi : i ≤ last) : clock last < (clock i).addCapped cooldown := by
  rcases Instant.position_addCapped (h.isLeap hi) hcooldown with ⟨hposition, hplain⟩
  have hfirst := h.position_le hi
  have hbrief := h.brief
  have hearly := h.early
  rw [← Instant.not_le, Instant.le_iff_position hplain (h.isLeap (Nat.le_refl last)), hposition]
  omega

end SteadyClock

namespace Outcomes

section Steady

variable {threshold : Nat} {cooldown : Span} {clock : Nat → Instant} {past : List Bool} {l : Lockout}
  {last : Nat}

/-- How far trading is restricted can be read off the history. -/
theorem Told.state (h : Told threshold cooldown clock past l) :
    l.state =
      if List.replicate threshold false <:+: past then .lockedOut
      else if past.getLast? = some false then .coolingDown
      else .none := by
  rcases h.phase with ⟨e, hphase, hlocked, -⟩
  rw [Lockout.state, hphase]
  cases e with
  | some t =>
    rw [if_pos (hlocked.1 rfl)]
    rfl
  | none =>
    have hfree : ¬List.replicate threshold false <:+: past := by
      rw [← hlocked]
      exact Bool.false_ne_true
    rw [if_neg hfree]
    have hlast := lossesSinceWin_eq_zero_iff past
    cases hlosses : lossesSinceWin past with
    | zero =>
      rw [if_neg (hlast.1 hlosses)]
      rfl
    | succ n =>
      have hloss : past.getLast? = some false := by
        by_contra hother
        rw [hlast.2 hother] at hlosses
        cases hlosses
      rw [if_pos hloss]
      rfl

/-- No lockout has expired at the last reading. -/
theorem Told.unexpired (h : Told threshold cooldown clock past l) (hcooldown : 0 ≤ cooldown.nanos)
    (hclock : SteadyClock clock cooldown last) (hpast : past.length ≤ last) {t : Instant}
    (ht : l.phase = .lockedOut t) : clock last < t := by
  rcases h.phase with ⟨e, hphase, -, hexpiry⟩
  have he : e = some t := by
    rw [← Lockout.expiry?_phaseOf e (lossesSinceWin past), ← hphase, ht]
    rfl
  rcases hexpiry t he with ⟨i, hi, rfl⟩
  exact hclock.lt_addCapped hcooldown (by omega)

theorem Told.isLockedAt_iff (h : Told threshold cooldown clock past l) (hcooldown : 0 ≤ cooldown.nanos)
    (hclock : SteadyClock clock cooldown last) (hpast : past.length ≤ last) :
    l.isLockedAt (clock last) = true ↔ l.state = .lockedOut := by
  rw [Lockout.isLockedAt, Lockout.state]
  cases hphase : l.phase with
  | clear => simp [LockoutPhase.expiry?, LockoutPhase.state]
  | coolingDown => simp [LockoutPhase.expiry?, LockoutPhase.state]
  | lockedOut t =>
    have hlasts : clock last < t := h.unexpired hcooldown hclock hpast hphase
    exact iff_of_true (decide_eq_true hlasts) rfl

end Steady

end Outcomes

/-! ## Reports -/

/-- What a report says about the lockout is read off a history.  A lockout is the reason for a rejection,
and it is the only one to have its text, unless settings have given this text to the bracket and there is
nothing to trade for the symbol. -/
structure PlanReport.Reflects (s : Settings) (symbol : String) (past : List Bool)
    (report : PlanReport) : Prop where
  streak : report.lossStreak = min (Outcomes.lossesSinceWin past) Count.max
  lockout : report.lockout =
    if List.replicate s.lockout.lossStreakThreshold false <:+: past then .lockedOut
    else if past.getLast? = some false then .coolingDown
    else .none
  rejected : report.lockout = .lockedOut → report.plan = .rejected Lockout.refusalText
  reason : report.plan.accepted = false → report.plan.reason = Lockout.refusalText →
    report.lockout = .lockedOut ∨
      s.sizing.bracket.tag = Lockout.refusalText ∧
        (s.tiers.forMode s.riskMode).bounded (s.sizing.quantity symbol s.riskMode) = 0

/-- A request at the last reading of the clock leaves the lockout as the history has made it. -/
theorem Outcomes.Replayed.reflects {s : Settings} {clock : Nat → Instant} {past : List Bool} {g : Gate}
    (h : Replayed s clock past g) {last : Nat} (hminutes : 1 ≤ s.lockout.cooldownMinutes)
    (hclock : SteadyClock clock (.ofMinutes s.lockout.cooldownMinutes) last)
    (hpast : past.length ≤ last) (hnow : g.now = clock last) {oco : String} {r : EntryRequest}
    (hsymbol : r.symbol ≠ "") (hside : r.side ≠ .flat) {plan : EntryPlan}
    (hplan : (g.plan oco r).2 = .ok plan) :
    let after := (g.plan oco r).1
    PlanReport.Reflects s r.symbol past
      ⟨plan, after.lockout.state, after.lockout.streak, after.events⟩ := by
  intro after
  have hcooldown : 0 ≤ (Span.ofMinutes s.lockout.cooldownMinutes).nanos := by
    show 0 ≤ s.lockout.cooldownMinutes * 60000000000
    omega
  have hlocked := h.lockout.isLockedAt_iff hcooldown hclock hpast
  rw [← hnow] at hlocked
  have hkept : after.lockout = g.lockout := by
    have hlasts : ¬g.Lifts r := by
      intro hlifts
      rcases hlifts.expired with ⟨t, ht, hexpired⟩
      have hunexpired := h.lockout.unexpired hcooldown hclock hpast ht
      rw [hnow] at hexpired
      exact Instant.not_le.2 hunexpired hexpired
    rcases g.plan_fst_eq oco r with ⟨log, hafter⟩
    show (g.plan oco r).1.lockout = g.lockout
    rw [hafter]
    exact Gate.lockoutAfter_of_not_lifts hlasts
  have hswitch : g.switch.isBlocked = false := by
    rw [h.switch]
    rfl
  rcases h.tracks with ⟨session, actions, htracks⟩
  rw [hkept]
  refine ⟨h.lockout.streak, h.lockout.state, ?_, ?_⟩
  · intro hstate
    rw [Gate.plan_of_locked hsymbol hside hswitch (hlocked.2 hstate)] at hplan
    exact (Except.ok.inj hplan).symm
  · intro hrejected hreason
    rcases Gate.locked_or_untraded_of_plan htracks hsymbol hplan hrejected hreason with
      hrefused | huntraded
    · exact .inl (hlocked.1 hrefused)
    · exact .inr huntraded

/-! ## Commands -/

namespace Command

/-- Planning ends in a fault, or with the report of a request on a gate that has been told the
history. -/
theorem planEntry_cases (env : Environment) (g : Gate) (outcomes : List Bool) (symbol : String)
    (side : Side) (kind : OrderKind) (price : Decimal) (moment : Option LocalDateTime) :
    let told := (Outcomes.replay env.clock 0 outcomes g).setClock (env.clock (outcomes.length + 1))
    (∃ f, planEntry env g outcomes symbol side kind price moment = .error (.fault f)) ∨
      ∃ r plan, r.symbol = symbol ∧ r.side = side ∧ (told.plan env.freshId r).2 = .ok plan ∧
        planEntry env g outcomes symbol side kind price moment =
          .ok ⟨plan, (told.plan env.freshId r).1.lockout.state,
            (told.plan env.freshId r).1.lockout.streak, (told.plan env.freshId r).1.events⟩ := by
  intro told
  cases hrequest : ((Outcomes.replay env.clock 0 outcomes g).setClock
      (env.clock outcomes.length)).request symbol side kind price with
  | error f =>
    refine .inl ⟨f, ?_⟩
    rw [planEntry, hrequest]
    rfl
  | ok request =>
    have hmade : request.symbol = symbol ∧ request.side = side := by
      rcases Fault.bind_eq_ok.1 hrequest with ⟨now, -, hmade⟩
      cases hmade
      exact ⟨rfl, rfl⟩
    let r : EntryRequest := { request with now := moment.getD request.now }
    have hplanned : planEntry env g outcomes symbol side kind price moment =
        (orFault (told.plan env.freshId r).2).map fun plan =>
          ⟨plan, (told.plan env.freshId r).1.lockout.state,
            (told.plan env.freshId r).1.lockout.streak, (told.plan env.freshId r).1.events⟩ := by
      rw [planEntry, hrequest]
      rfl
    cases hanswer : (told.plan env.freshId r).2 with
    | error f =>
      refine .inl ⟨f, ?_⟩
      rw [hplanned, hanswer]
      rfl
    | ok plan =>
      refine .inr ⟨r, plan, hmade.1, hmade.2, hanswer, ?_⟩
      rw [hplanned, hanswer]
      rfl

/-- A plan is made after the history has been read. -/
theorem run_plan {env : Environment} {s : Settings} {calendar : Option String} {g : Gate}
    (hg : env.openGate s calendar = .ok g) (symbol : String) (side : Side) (kind : OrderKind)
    (price : Decimal) (moment : Option LocalDateTime) (outcomes : String) :
    run env s (.plan symbol side kind price moment outcomes calendar) =
      match Outcomes.parse outcomes with
      | .error c => .error (.unknownOutcome c)
      | .ok outcomes =>
        (planEntry env g outcomes symbol side kind price moment).map fun report =>
          .report report.encode := by
  show env.openGate s calendar >>= _ = _
  rw [hg]
  rfl

end Command

/-! ## Settings from a file -/

/-- A threshold that is read is a count. -/
theorem LockoutSettings.threshold_le_of_decode {format : Format} (d : Document) (s : LockoutSettings)
    (h : decode format d = some s) : s.lossStreakThreshold ≤ Count.max := by
  rcases Option.bind_eq_some_iff.1 h with ⟨m, -, h⟩
  simp only [Option.bind_eq_bind, Option.bind_eq_some_iff, Option.pure_def, Option.some.injEq] at h
  rcases h with ⟨threshold, hthreshold, _, -, _, -, rfl⟩
  exact Members.of_defaulted? (· ≤ Count.max) (fun _ _ => Document.le_of_natUpTo?) (by decide)
    hthreshold

theorem Settings.threshold_le_of_decode {format : Format} {d : Document} {s : Settings}
    (h : decode format d = some s) : s.lockout.lossStreakThreshold ≤ Count.max := by
  rcases Option.bind_eq_some_iff.1 h with ⟨m, -, h⟩
  simp only [Option.bind_eq_bind, Option.bind_eq_some_iff, Option.pure_def, Option.some.injEq] at h
  rcases h with ⟨_, -, _, -, _, -, _, -, lockout, hlockout, _, -, _, -, _, -, _, -, _, -, _, -, rfl⟩
  exact Members.of_defaulted? (fun lockout => lockout.lossStreakThreshold ≤ Count.max)
    LockoutSettings.threshold_le_of_decode (by decide) hlockout

/-- Settings that are read come from a document, and have been validated. -/
theorem Settings.exists_of_parse {zones : ZoneTable} {text : String} {s : Settings}
    (h : parse zones text = .ok s) :
    ∃ (d : Document) (first : Settings), decode .toml d = some first ∧
      first.validate zones = .ok s := by
  unfold parse at h
  cases hread : (Toml.parse? text).bind (decode (α := Settings) .toml) with
  | none =>
    rw [hread] at h
    cases h
  | some first =>
    rw [hread] at h
    rcases Option.bind_eq_some_iff.1 hread with ⟨d, -, hdecode⟩
    exact ⟨d, first, hdecode, h⟩

/-- Settings that are read have been repaired already. -/
theorem Settings.repair_of_parse {zones : ZoneTable} {text : String} {s : Settings}
    (h : parse zones text = .ok s) :
    s.repair = s ∧ s.lockout.lossStreakThreshold ≤ Count.max := by
  rcases exists_of_parse h with ⟨d, first, hdecode, hvalid⟩
  have hcount := threshold_le_of_decode hdecode
  rw [validate_eq] at hvalid
  cases hcheck : first.check zones with
  | error e =>
    rw [hcheck] at hvalid
    cases hvalid
  | ok _ =>
    rw [hcheck] at hvalid
    cases hvalid
    refine ⟨first.repaired_repair.repair_eq, ?_⟩
    show Lockout.repairThreshold first.lockout.lossStreakThreshold ≤ Count.max
    rw [Lockout.repairThreshold]
    split
    · decide
    · exact hcount

namespace Environment

variable {env : Environment}

theorem repair_of_loadSettings {path : Option String} {s : Settings}
    (h : env.loadSettings path = .ok s) :
    s.repair = s ∧ s.lockout.lossStreakThreshold ≤ Count.max := by
  cases path with
  | none =>
    cases h
    exact ⟨rfl, by decide⟩
  | some path =>
    rw [loadSettings] at h
    split at h
    · next hfile =>
      cases h
      rcases Option.map_eq_some_iff.1 hfile with ⟨text, -, hparse⟩
      exact Settings.repair_of_parse hparse
    · cases h

theorem ofSettings_of_openGate {s : Settings} {calendar : Option String} {g : Gate}
    (h : env.openGate s calendar = .ok g) :
    ∃ provider, Gate.ofSettings env.zones s provider (env.clock 0) = .ok g := by
  rw [openGate] at h
  cases hprovider : env.loadCalendar calendar with
  | error failure =>
    rw [hprovider] at h
    cases h
  | ok provider =>
    rw [hprovider] at h
    refine ⟨provider, ?_⟩
    rcases hgate : Gate.ofSettings env.zones s provider (env.clock 0) with (e | f) | made
    · simp [hgate, bind, Except.bind] at h
    · simp [hgate, bind, Except.bind] at h
    · simpa [hgate, bind, Except.bind, pure, Except.pure] using h

end Environment

/-- A command that plans an entry reports what the settings make of the history before it, unless the
planning ends in a fault; and it ends with an error if the history has a character that is none of the
letters and separators. -/
theorem Invocation.plan_reflects_outcomes {env : Environment} {path calendar : Option String}
    {s : Settings} {g : Gate} (hs : env.loadSettings path = .ok s)
    (hg : env.openGate s calendar = .ok g) (symbol : String) (side : Side) (kind : OrderKind)
    (price : Decimal) (moment : Option LocalDateTime) (outcomes : String) :
    let invocation : Invocation :=
      ⟨path, .plan symbol side kind price moment outcomes calendar⟩
    let past := Outcomes.history outcomes
    (∀ c, outcomes.toList.find? (fun c => decide ¬Outcomes.Legal c) = some c →
        invocation.run env = .error (.unknownOutcome c.toUpper)) ∧
      ((∀ c ∈ outcomes.toList, Outcomes.Legal c) → symbol ≠ "" → side ≠ .flat →
        SteadyClock env.clock (.ofMinutes s.lockout.cooldownMinutes) (past.length + 1) →
        (∃ f, invocation.run env = .error (.fault f)) ∨
          ∃ report : PlanReport, invocation.run env = .ok (.report report.encode) ∧
            report.Reflects s symbol past) := by
  intro invocation past
  rcases Environment.repair_of_loadSettings hs with ⟨hrepaired, hcount⟩
  rcases Environment.ofSettings_of_openGate hg with ⟨provider, hmade⟩
  have hrun : invocation.run env =
      match Outcomes.parse outcomes with
      | .error c => .error (.unknownOutcome c)
      | .ok outcomes =>
        (Command.planEntry env g outcomes symbol side kind price moment).map fun report =>
          .report report.encode := by
    show env.loadSettings path >>= _ = _
    rw [hs]
    exact Command.run_plan hg symbol side kind price moment outcomes
  refine ⟨?_, ?_⟩
  · intro c hc
    rw [hrun, Outcomes.parse, Outcomes.ofChars_of_illegal hc]
  · intro hlegal hsymbol hside hclock
    have hrepair := s.repaired_repair
    rw [hrepaired] at hrepair
    have hreplayed := (Outcomes.replayed_ofSettings hrepaired hmade env.clock).replay hrepair.threshold
      hcount past
    have htold := hreplayed.setClock (env.clock (past.length + 1))
    rw [hrun, Outcomes.parse, Outcomes.ofChars_of_legal hlegal]
    rcases Command.planEntry_cases env g past symbol side kind price moment with
      ⟨f, hfault⟩ | ⟨r, plan, rfl, rfl, hplan, hreport⟩
    · refine .inl ⟨f, ?_⟩
      show (Command.planEntry env g past symbol side kind price moment).map _ = _
      rw [hfault]
      rfl
    · refine .inr ⟨_, ?_, htold.reflects hrepair.minutes.1 hclock (Nat.le_succ _) rfl hsymbol hside
        hplan⟩
      show (Command.planEntry env g past r.symbol r.side kind price moment).map _ = _
      rw [hreport]
      rfl

/-- With the usual settings, two losses lock trading out.  Of the outcomes here the first two are losses,
and the win after them ends the streak but not the lockout; all of it takes fourteen minutes of fifteen.
Another letter in the text is an error. -/
theorem Invocation.plan_reflects_outcomes_of_lost_start :
    let start : Instant := ⟨1756821600, 0, by decide, by decide, by decide⟩
    let later : Instant := ⟨1756822440, 0, by decide, by decide, by decide⟩
    let env : Environment :=
      ⟨fun _ => none, fun i => if i < 3 then start else later, .exchanges, "id"⟩
    let price : Decimal := .whole false 5000 (by decide)
    let invocation (outcomes : String) : Invocation :=
      ⟨none, .plan "ES" .long .limit price none outcomes none⟩
    SteadyClock env.clock (.ofMinutes 15) 5 ∧
      (∃ report : PlanReport, (invocation "lL, w,L").run env = .ok (.report report.encode) ∧
        report.lossStreak = 1 ∧ report.lockout = .lockedOut ∧
        report.plan = .rejected "risk lockout in effect") ∧
      (invocation "LxL").run env = .error (.unknownOutcome 'X') := by
  intro start later env price invocation
  let g := Gate.assemble Settings.defaults Zone.newYork
    (some ⟨.ofTags [], .new EventLog.defaultCapacity⟩) .none start
  have hs : env.loadSettings none = .ok Settings.defaults := rfl
  have hg : env.openGate Settings.defaults none = .ok g := rfl
  have hclock : SteadyClock env.clock (.ofMinutes 15) 5 := by
    refine ⟨?_, by decide, by decide, by decide⟩
    intro i _
    by_cases hi : i < 3
    · exact ⟨1756821600000000000, if_pos hi⟩
    · exact ⟨1756822440000000000, if_neg hi⟩
  have hplanned := Invocation.plan_reflects_outcomes hs hg "ES" .long .limit price none
  have hanswer : ((invocation "lL, w,L").run env).isOk = true := by decide +kernel
  have hlegal : ∀ c ∈ "lL, w,L".toList, Outcomes.Legal c := by simp [Outcomes.Legal]
  refine ⟨hclock, ?_, (hplanned "LxL").1 'x' (by decide)⟩
  rcases (hplanned "lL, w,L").2 hlegal (by decide) (by decide) hclock with
    ⟨f, hfault⟩ | ⟨report, hreport, hreflects⟩
  · rw [hfault] at hanswer
    cases hanswer
  · have hlocked : report.lockout = .lockedOut := hreflects.lockout
    exact ⟨report, hreport, hreflects.streak, hlocked, hreflects.rejected hlocked⟩

/-- The reason of the lockout without a lockout: the bracket has been given this text as its tag, and
nothing to trade. -/
theorem Command.lockout_reason_without_lockout :
    let start : Instant := ⟨1756821600, 0, by decide, by decide, by decide⟩
    let env : Environment := ⟨fun _ => none, fun _ => start, .exchanges, "id"⟩
    let price : Decimal := .whole false 100 (by decide)
    let s : Settings :=
      { Settings.defaults with
        sizing := ⟨{ Bracket.defaults with dcp := 0, tag := "risk lockout in effect" }, []⟩
        tiers := { RiskTiers.defaults with dcp := .new 0 3 "DCP" } }
    s.validate env.zones = .ok s ∧
      SteadyClock env.clock (.ofMinutes s.lockout.cooldownMinutes) 1 ∧
      ∃ report : PlanReport,
        Command.run env s (.plan "ES" .long .limit price none "" none) =
          .ok (.report report.encode) ∧
        report.plan = .rejected "risk lockout in effect" ∧ report.lockout = .none := by
  intro start env price s
  let g := Gate.assemble s Zone.newYork (some ⟨.ofTags [], .new EventLog.defaultCapacity⟩) .none start
  have hg : env.openGate s none = .ok g := rfl
  have hclock : SteadyClock env.clock (.ofMinutes s.lockout.cooldownMinutes) 1 :=
    ⟨fun _ _ => ⟨1756821600000000000, rfl⟩, by decide, by decide, by decide⟩
  let report : PlanReport :=
    ⟨.rejected "risk lockout in effect", .none, 0, [⟨"sizing", "risk lockout in effect"⟩]⟩
  have hplanned : planEntry env g [] "ES" .long .limit price none = .ok report := by
    decide +kernel
  refine ⟨rfl, hclock, report, ?_, rfl, rfl⟩
  rw [run_plan hg]
  show (planEntry env g [] "ES" .long .limit price none).map _ = _
  rw [hplanned]
  rfl

end EntryGate
