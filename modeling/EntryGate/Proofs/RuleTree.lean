import EntryGate.Proofs.LockoutHistory
import EntryGate.Risk.Rule

/-!
# Trees of rules

What holds of every tree of risk rules, however chains and switches are nested, and however the tree
came into its present state.

* `Checkpoint` is a place of a tree where an entry can be refused: a leaf, or a switch itself.
  `Rule.checkpoints` lists these places from the left to the right, a switch before what it guards;
* `Rule.Event` is an operation on some rule of a tree, and `Rule.run` a history of events;
* `Rule.renewed` is a tree with nothing counted.  It is what no event changes
  (`Rule.renewed_act`), so that the terms of the rules are those of the first tree.
-/

namespace EntryGate

namespace Lockout

/-- Whether trading is locked out at a time, which it is until the expiry is reached. -/
def isLockedAt (l : Lockout) (now : Instant) : Bool :=
  l.phase.expiry?.any fun t => decide (now < t)

/-- A lockout with its terms and nothing counted. -/
def renewed (l : Lockout) : Lockout :=
  { l with streak := 0, phase := .clear }

theorem renewed_refresh (l : Lockout) (now : Instant) : (l.refresh now).renewed = l.renewed := by
  rw [refresh]
  split
  · split <;> rfl
  · rfl

theorem renewed_evaluate (l : Lockout) (now : Instant) (intent : PositionIntent) :
    (l.evaluate now intent).1.renewed = l.renewed := by
  rw [evaluate_fst]
  split
  · rfl
  · exact l.renewed_refresh now

theorem renewed_record (l : Lockout) (now : Instant) (win : Bool) :
    (l.record now win).renewed = l.renewed := by
  cases win with
  | true => rfl
  | false =>
    rw [record, if_neg Bool.false_ne_true, recordLoss]
    split
    · rfl
    · split <;> rfl

end Lockout

/-! ## Checkpoints -/

/-- A place in a tree of rules where an entry can be refused. -/
inductive Checkpoint where
  | lockout (l : Lockout)
  | caps (c : CapsRule)
  | guard (g : LossGuard)
  | switch (flags : SwitchFlags)
deriving DecidableEq

namespace Checkpoint

/-- Why an entry is refused at this place, if it is. -/
def refusal (now : Instant) : Checkpoint → Except Fault (Option String)
  | .lockout l => .ok (if l.isLockedAt now then some "risk lockout in effect" else none)
  | .caps c => c.refusal
  | .guard g => .ok (if g.maxLosses ≤ g.streak then some g.tag else none)
  | .switch flags => .ok flags.refusal?

/-- The place after an entry has passed it: a lockout that has expired is lifted. -/
def passed (now : Instant) : Checkpoint → Checkpoint
  | .lockout l => .lockout (l.refresh now)
  | c => c

/-- The place as it was before anything was counted or set. -/
def renewed : Checkpoint → Checkpoint
  | .lockout l => .lockout l.renewed
  | .caps c => .caps { c with snapshot := .empty }
  | .guard g => .guard g.reset
  | .switch _ => .switch .initial

/-- A lockout, a guard or a switch as it comes into being; caps may look at any snapshot. -/
def Fresh : Checkpoint → Prop
  | .lockout l => ∃ mode threshold cooldown, l = .new mode threshold cooldown
  | .caps _ => True
  | .guard g => ∃ maxLosses tag, g = .new maxLosses tag
  | .switch flags => flags = .initial

/-- A guard has a tag to refuse with. -/
def Tagged : Checkpoint → Prop
  | .guard g => g.tag ≠ ""
  | _ => True

theorem Fresh.tagged {c : Checkpoint} (h : c.Fresh) : c.Tagged := by
  cases c with
  | guard g =>
    obtain ⟨maxLosses, tag, rfl⟩ := h
    show (if tag.isEmpty then LossGuard.defaultTag else tag) ≠ ""
    by_cases hempty : tag.isEmpty = true
    · rw [if_pos hempty]
      decide
    · rw [if_neg hempty]
      intro htag
      exact hempty (String.isEmpty_iff.2 htag)
  | lockout l => trivial
  | caps c => trivial
  | switch flags => trivial

theorem tagged_renewed {c : Checkpoint} : c.renewed.Tagged ↔ c.Tagged := by
  cases c <;> exact Iff.rfl

/-- Every refusal has a reason. -/
theorem reason_ne_empty {c : Checkpoint} {now : Instant} {reason : String} (htagged : c.Tagged)
    (h : c.refusal now = .ok (some reason)) : reason ≠ "" := by
  cases c with
  | lockout l =>
    rw [refusal] at h
    split at h
    · cases h
      decide
    · cases h
  | caps c =>
    rw [refusal, CapsRule.refusal] at h
    cases hdecision : c.decision with
    | error fault =>
      rw [hdecision] at h
      cases h
    | ok d =>
      rw [hdecision] at h
      cases d with
      | allow => cases h
      | blockMaxContracts | blockDailyLoss | blockWeeklyLoss | blockTrailingDrawdown =>
        cases h
        decide
  | guard g =>
    rw [refusal] at h
    split at h
    · cases h
      exact htagged
    · cases h
  | switch flags =>
    rw [refusal, SwitchFlags.refusal?] at h
    split at h
    · cases h
      decide
    · split at h
      · cases h
        decide
      · cases h

end Checkpoint

namespace Rule

mutual

/-- The places of a tree, from the left to the right and from the outside to the inside. -/
def checkpoints : Rule → List Checkpoint
  | .lockout l => [.lockout l]
  | .caps c => [.caps c]
  | .guard g => [.guard g]
  | .switch flags inner => .switch flags :: checkpoints inner
  | .chain _ rules => checkpointsAll rules

def checkpointsAll : List Rule → List Checkpoint
  | [] => []
  | r :: rs => checkpoints r ++ checkpointsAll rs

end

/-- A tree of rules that have just been made. -/
def Fresh (r : Rule) : Prop :=
  ∀ c ∈ r.checkpoints, c.Fresh

/-! ## Histories -/

/-- What can be done with a rule.  The last four are for one kind of rule each. -/
inductive Operation where
  | evaluate (intent : PositionIntent)
  | poll
  | outcome (win : Bool)
  | force
  | reset
  | turn (flags : SwitchFlags)
  | snapshot (s : RiskSnapshot)

def Operation.apply (now : Instant) : Operation → Rule → Rule
  | .evaluate intent, r => (r.evaluate now intent).1
  | .poll, r => (r.poll now).1
  | .outcome win, r => r.record now win
  | .force, .lockout l => .lockout (l.force now)
  | .reset, .guard g => .guard g.reset
  | .turn flags, .switch _ inner => .switch flags inner
  | .snapshot s, .caps c => .caps { c with snapshot := s }
  | _, r => r

/-- An operation on the rule at a place of a tree, the empty path being the tree itself. -/
structure Event where
  now : Instant
  path : List Nat
  operation : Operation

def act (r : Rule) (e : Event) : Rule :=
  r.modifyAt (e.operation.apply e.now) e.path

/-- The tree after a history of events. -/
def run (r : Rule) (past : List Event) : Rule :=
  past.foldl act r

/-! ## What no event changes -/

mutual

/-- A tree with nothing counted and nothing set. -/
def renewed : Rule → Rule
  | .lockout l => .lockout l.renewed
  | .caps c => .caps { c with snapshot := .empty }
  | .guard g => .guard g.reset
  | .switch _ inner => .switch .initial (renewed inner)
  | .chain mode rules => .chain mode (renewedAll rules)

def renewedAll : List Rule → List Rule
  | [] => []
  | r :: rs => renewed r :: renewedAll rs

end

mutual

theorem checkpoints_renewed (r : Rule) :
    r.renewed.checkpoints = r.checkpoints.map Checkpoint.renewed := by
  cases r with
  | lockout l => rfl
  | caps c => rfl
  | guard g => rfl
  | switch flags inner =>
    rw [renewed, checkpoints, checkpoints, checkpoints_renewed inner, List.map_cons]
    rfl
  | chain mode rules =>
    rw [renewed, checkpoints, checkpoints, checkpointsAll_renewedAll rules]

theorem checkpointsAll_renewedAll (rules : List Rule) :
    checkpointsAll (renewedAll rules) = (checkpointsAll rules).map Checkpoint.renewed := by
  cases rules with
  | nil => rfl
  | cons r rs =>
    rw [renewedAll, checkpointsAll, checkpointsAll, checkpoints_renewed r,
      checkpointsAll_renewedAll rs, List.map_append]

end

mutual

theorem renewed_evaluate (now : Instant) (intent : PositionIntent) (r : Rule) :
    (r.evaluate now intent).1.renewed = r.renewed := by
  cases r with
  | lockout l => exact congrArg Rule.lockout (l.renewed_evaluate now intent)
  | caps c => rfl
  | guard g => rfl
  | switch flags inner =>
    rw [evaluate]
    cases flags.refusal? with
    | some reason => rfl
    | none => simp only [renewed, renewed_evaluate now intent inner]
  | chain mode rules =>
    rw [evaluate]
    simp only [renewed, renewedAll_evaluateAll now intent rules]

theorem renewedAll_evaluateAll (now : Instant) (intent : PositionIntent) (rules : List Rule) :
    renewedAll (evaluateAll now intent rules).1 = renewedAll rules := by
  cases rules with
  | nil => rfl
  | cons r rs =>
    have hr := renewed_evaluate now intent r
    have hrs := renewedAll_evaluateAll now intent rs
    rw [evaluateAll]
    rcases hanswer : evaluate now intent r with ⟨r', answer⟩
    rw [hanswer] at hr
    split
    · next heq =>
      cases heq
      simp only [renewedAll, hr, hrs]
    · next heq =>
      cases heq
      simp only [renewedAll, hr]

end

mutual

theorem renewed_poll (now : Instant) (r : Rule) : (r.poll now).1.renewed = r.renewed := by
  cases r with
  | lockout l => exact congrArg Rule.lockout (l.renewed_refresh now)
  | caps c => rfl
  | guard g => rfl
  | switch flags inner =>
    rw [poll]
    split
    · rfl
    · simp only [renewed, renewed_poll now inner]
  | chain mode rules =>
    rw [poll]
    simp only [renewed, renewedAll_pollAll now rules]

theorem renewedAll_pollAll (now : Instant) (rules : List Rule) :
    renewedAll (pollAll now rules).1 = renewedAll rules := by
  cases rules with
  | nil => rfl
  | cons r rs =>
    have hr := renewed_poll now r
    have hrs := renewedAll_pollAll now rs
    rw [pollAll]
    rcases hanswer : poll now r with ⟨r', answer⟩
    rw [hanswer] at hr
    cases answer with
    | ok here => simp only [renewedAll, hr, hrs]
    | error fault => simp only [renewedAll, hr]

end

mutual

theorem renewed_record (now : Instant) (win : Bool) (r : Rule) :
    (r.record now win).renewed = r.renewed := by
  cases r with
  | lockout l => exact congrArg Rule.lockout (l.renewed_record now win)
  | caps c => rfl
  | guard g => cases win <;> rfl
  | switch flags inner => simp only [record, renewed, renewed_record now win inner]
  | chain mode rules => simp only [record, renewed, renewedAll_recordAll now win rules]

theorem renewedAll_recordAll (now : Instant) (win : Bool) (rules : List Rule) :
    renewedAll (recordAll now win rules) = renewedAll rules := by
  cases rules with
  | nil => rfl
  | cons r rs =>
    simp only [recordAll, renewedAll, renewed_record now win r, renewedAll_recordAll now win rs]

end

theorem renewed_operation (now : Instant) (operation : Operation) (r : Rule) :
    (operation.apply now r).renewed = r.renewed := by
  cases operation with
  | evaluate intent => exact renewed_evaluate now intent r
  | poll => exact renewed_poll now r
  | outcome win => exact renewed_record now win r
  | force | reset | turn | snapshot => cases r <;> rfl

mutual

/-- A change that keeps the terms of every rule keeps those of the tree around it. -/
theorem renewed_modifyAt {f : Rule → Rule} (hf : ∀ r, (f r).renewed = r.renewed) (path : List Nat)
    (r : Rule) : (modifyAt f path r).renewed = r.renewed := by
  cases path with
  | nil =>
    rw [modifyAt]
    exact hf r
  | cons n path =>
    cases r with
    | lockout l => rfl
    | caps c => rfl
    | guard g => rfl
    | switch flags inner => simp only [modifyAt, renewed, renewed_modifyAt hf path inner]
    | chain mode rules => simp only [modifyAt, renewed, renewedAll_modifyNth hf path n rules]

theorem renewedAll_modifyNth {f : Rule → Rule} (hf : ∀ r, (f r).renewed = r.renewed)
    (path : List Nat) (n : Nat) (rules : List Rule) :
    renewedAll (modifyNth f path n rules) = renewedAll rules := by
  cases rules with
  | nil => cases n <;> rfl
  | cons r rs =>
    cases n with
    | zero => simp only [modifyNth, renewedAll, renewed_modifyAt hf path r]
    | succ n => simp only [modifyNth, renewedAll, renewedAll_modifyNth hf path n rs]

end

theorem renewed_act (r : Rule) (e : Event) : (r.act e).renewed = r.renewed :=
  renewed_modifyAt (renewed_operation e.now e.operation) e.path r

theorem renewed_run (r : Rule) (past : List Event) : (r.run past).renewed = r.renewed := by
  induction past generalizing r with
  | nil => rfl
  | cons e rest ih => exact (ih (r.act e)).trans (r.renewed_act e)

/-- After any history every guard still has the tag with which it was made. -/
theorem tagged_run {r : Rule} (h : r.Fresh) (past : List Event) :
    ∀ c ∈ (r.run past).checkpoints, c.Tagged := by
  intro c hc
  have hrenewed : c.renewed ∈ (r.run past).renewed.checkpoints := by
    rw [checkpoints_renewed]
    exact List.mem_map_of_mem hc
  rw [renewed_run, checkpoints_renewed] at hrenewed
  obtain ⟨first, hfirst, heq⟩ := List.mem_map.1 hrenewed
  have htagged : first.renewed.Tagged := Checkpoint.tagged_renewed.2 (h first hfirst).tagged
  rw [heq] at htagged
  exact Checkpoint.tagged_renewed.1 htagged

end Rule
end EntryGate
