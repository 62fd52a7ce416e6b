import EntryGate.Proofs.EventStream
import EntryGate.Proofs.RestoredValues

/-!
# Plans and where they come from

A plan says in three places whether it is accepted: by its mark, by its reason and by its orders.  The
two ways to make a plan keep the three together, and so does the planner, which has no other way.
Reading a plan takes each of them from the document as it is there, so that a plan that was read says
what its document says.

* `Planner.plan_build_cases` is all that the planner can answer, and `Planner.plan_build_of_protects`
  and `Planner.plan_build_of_not_protects` are its answers to a request that reaches the stop gate;
* `EntryPlan.Consistent` says that the three places agree, and `Members.DescribesPlan` says it of a
  document;
* `EntryPlan.Obtained` are the plans that are made here, or were before they were written and read;
* `EntryPlan.consistent_of_origin` puts both together.
-/

namespace EntryGate

/-! ## Answers of the planner -/

namespace Planner

variable {ρ : Type} {p : Planner ρ} {state : ρ} {r : EntryRequest} {oco : String}
  {entry stop : Decimal} {plan : EntryPlan}

/-- The plan of a request that reaches the price gate. -/
theorem plan_build_of_sizing (h : PassesSizing p state r) (oco : String) :
    (p.build oco r state).plan =
      (p.priceOrders oco r (p.sizer.decide r.intent p.mode).quantity).map Verdict.plan := by
  have hfilled : ¬r.symbol.isEmpty = true := fun hempty => h.symbol (String.isEmpty_iff.1 hempty)
  have hsided : ¬r.side.isFlat = true := by simpa [Side.isFlat] using h.side
  have hrisk := h.risk
  rw [build, if_neg hfilled, if_neg hsided]
  rcases hanswer : p.risk state r.intent with ⟨next, answer⟩
  rw [hanswer] at hrisk
  cases hrisk
  exact plan_afterRisk h.session h.quantity oco next

/-- A request that does not reach the price gate is rejected, if it gets an answer. -/
theorem rejected_of_not_sizing (hnot : ¬PassesSizing p state r)
    (h : (p.build oco r state).plan = .ok plan) : ∃ reason, plan = .rejected reason := by
  rw [build] at h
  by_cases hsymbol : r.symbol.isEmpty = true
  · rw [if_pos hsymbol] at h
    cases h
    exact ⟨_, rfl⟩
  · rw [if_neg hsymbol] at h
    by_cases hflat : r.side.isFlat = true
    · rw [if_pos hflat] at h
      cases h
      exact ⟨_, rfl⟩
    · rw [if_neg hflat] at h
      rcases hanswer : p.risk state r.intent with ⟨next, fault | _ | reason⟩
      · rw [hanswer] at h
        cases h
      · -- only the session gate and the sizing are left to stop the request
        rw [hanswer] at h
        have hpasses : PassesRisk p state r :=
          ⟨fun hempty => hsymbol (String.isEmpty_iff.2 hempty),
            fun hside => hflat (by rw [hside]; rfl), by rw [hanswer]⟩
        cases hblock : p.session.blocking? r.symbol r.now with
        | some block =>
          simp only [afterRisk, hblock] at h
          cases h
          exact ⟨_, rfl⟩
        | none =>
          have hzero : (p.sizer.decide r.intent p.mode).quantity = 0 := by
            by_contra hquantity
            exact hnot ⟨hpasses, hblock, hquantity⟩
          simp only [afterRisk, hblock, hzero, if_true] at h
          cases h
          exact ⟨_, rfl⟩
      · rw [hanswer] at h
        cases h
        exact ⟨_, rfl⟩

/-- What the planner can answer: a rejection, or the orders of an entry that passed all gates. -/
theorem plan_build_cases (h : (p.build oco r state).plan = .ok plan) :
    (∃ reason, plan = .rejected reason) ∨
      ∃ entry stop, PassesPrice p state r entry stop ∧ r.Protects entry stop ∧
        plan = orders r (p.sizer.decide r.intent p.mode).quantity entry stop oco := by
  by_cases hsizing : PassesSizing p state r
  · rw [plan_build_of_sizing hsizing] at h
    cases hverdict : p.priceOrders oco r (p.sizer.decide r.intent p.mode).quantity with
    | error fault =>
      rw [hverdict] at h
      cases h
    | ok verdict =>
      rw [hverdict] at h
      cases h
      rcases priceOrders_cases hsizing hverdict with
        ⟨gate, reason, rfl, -⟩ | ⟨entry, stop, rfl, hpasses, hprotects⟩
      · exact .inl ⟨reason, rfl⟩
      · exact .inr ⟨entry, stop, hpasses, hprotects, rfl⟩
  · exact .inl (rejected_of_not_sizing hsizing h)

/-- An entry with a stop that protects is accepted. -/
theorem plan_build_of_protects (h : PassesPrice p state r entry stop) (hside : r.Protects entry stop)
    (oco : String) :
    (p.build oco r state).plan =
      .ok (orders r (p.sizer.decide r.intent p.mode).quantity entry stop oco) := by
  rw [plan_build_of_sizing h.toPassesSizing, priceOrders_eq h.price h.entering h.protecting,
    if_neg (protects_iff.1 hside)]
  rfl

/-- An entry with a stop that does not protect is rejected. -/
theorem plan_build_of_not_protects (h : PassesPrice p state r entry stop)
    (hside : ¬r.Protects entry stop) (oco : String) :
    (p.build oco r state).plan = .ok (.rejected (sideReason r)) := by
  rw [plan_build_of_sizing h.toPassesSizing, priceOrders_eq h.price h.entering h.protecting,
    if_pos (Classical.not_not.1 (mt protects_iff.2 hside))]
  rfl

/-- A planner that lets everything pass up to the price gate: it has no risk rules and no session
windows, and always the same quantity. -/
def unguarded (quantity : Nat) (trailing : Trailing) : Planner Unit where
  mode := .standard
  risk state _ := (state, .ok none)
  session := .ofCalendar fun _ _ => none
  sizer := .fixed quantity
  trailing := trailing

theorem passesSizing_unguarded {quantity : Nat} (trailing : Trailing) (hsymbol : r.symbol ≠ "")
    (hside : r.side ≠ .flat) (hquantity : quantity ≠ 0) :
    PassesSizing (unguarded quantity trailing) () r := by
  refine ⟨⟨hsymbol, hside, rfl⟩, ?_, hquantity⟩
  rw [SessionGate.blocking?_eq_none_iff]
  intro _ day hday
  cases hday

end Planner

/-! ## Marks, reasons and orders -/

namespace EntryPlan

/-- A plan has no reason exactly if it is accepted, and both orders exactly if it is accepted. -/
structure Consistent (p : EntryPlan) : Prop where
  reason : p.reason = "" ↔ p.accepted = true
  orders : p.entryOrder.isSome = true ∧ p.stopOrder.isSome = true ↔ p.accepted = true

theorem consistent_rejected (reason : String) : (rejected reason).Consistent := by
  refine ⟨?_, ?_⟩
  · have hfilled : (rejected reason).reason ≠ "" := by
      by_cases hempty : reason = ""
      · -- an empty reason is replaced
        subst hempty
        decide
      · rw [Planner.reason_rejected hempty]
        exact hempty
    exact iff_of_false hfilled Bool.false_ne_true
  · exact iff_of_false (fun h => Bool.false_ne_true h.1) Bool.false_ne_true

theorem consistent_entering (entry stop : OrderIntent) (oco : String) :
    (entering entry stop oco).Consistent :=
  ⟨iff_of_true rfl rfl, iff_of_true ⟨rfl, rfl⟩ rfl⟩

/-- Whatever the planner answers with is consistent. -/
theorem consistent_of_build {ρ : Type} {p : Planner ρ} {oco : String} {r : EntryRequest} {state : ρ}
    {plan : EntryPlan} (h : (p.build oco r state).plan = .ok plan) : plan.Consistent := by
  rcases Planner.plan_build_cases h with ⟨reason, rfl⟩ | ⟨entry, stop, -, -, rfl⟩
  · exact consistent_rejected reason
  · exact consistent_entering _ _ _

end EntryPlan

/-! ## Plans that are read -/

namespace Members

/-- The names of the members of a plan. -/
def planNames : List String :=
  ["accepted", "reason", "entry_order", "stop_order", "oco_group"]

/-- There is a member of this name, and it is no null. -/
def Has (m : Members) (name : String) : Prop :=
  ∃ d, Document.member? m.entries name = some d ∧ d ≠ .null

/-- The members say in all three places whether the plan is accepted. -/
structure DescribesPlan (m : Members) : Prop where
  reason : Document.member? m.entries "reason" = some (.text "") ↔
    Document.member? m.entries "accepted" = some (.bool true)
  orders : m.Has "entry_order" ∧ m.Has "stop_order" ↔
    Document.member? m.entries "accepted" = some (.bool true)

theorem member?_bool_iff {m : Members} {name : String} {format : Format} {b : Bool}
    (h : m.required? name (decode format) = some b) :
    Document.member? m.entries name = some (.bool true) ↔ b = true := by
  obtain ⟨d, hd, hb⟩ := Option.bind_eq_some_iff.1 h
  rw [hd]
  cases d with
  | bool c =>
    cases hb
    simp
  | _ => cases hb

theorem member?_text_iff {m : Members} {name : String} {format : Format} {s : String}
    (h : m.required? name (decode format) = some s) :
    Document.member? m.entries name = some (.text "") ↔ s = "" := by
  obtain ⟨d, hd, hs⟩ := Option.bind_eq_some_iff.1 h
  rw [hd]
  cases d with
  | text t =>
    cases hs
    simp
  | _ => cases hs

theorem has_iff_of_member {m : Members} {name : String} {d : Document}
    (h : Document.member? m.entries name = some d) : m.Has name ↔ d ≠ .null := by
  simp [Has, h]

/-- A member that may be absent is there exactly if something was read for it. -/
theorem has_iff_of_read {α : Type} {value : Document → Option α} {m : Members} {name : String}
    {o : Option α} (h : m.optional? name value = some o) : m.Has name ↔ o.isSome = true := by
  rw [optional?] at h
  cases hmember : Document.member? m.entries name with
  | none =>
    -- a list has to have the member, so that only a record can leave it out
    have habsent : o = none := by
      rw [hmember] at h
      simp only at h
      split at h
      · cases h
      · cases h
        rfl
    simp [Has, hmember, habsent]
  | some d =>
    rw [has_iff_of_member hmember]
    rw [hmember] at h
    by_cases hnull : d = .null
    · subst hnull
      cases h
      simp
    · simp only [Restores.optionOf?_of_ne_null hnull, Option.map_eq_some_iff] at h
      obtain ⟨x, -, rfl⟩ := h
      simp [hnull]

/-- An order that may be absent is there exactly if something was written for it. -/
theorem has_iff_of_written {m : Members} {name : String} {o : Option OrderIntent}
    (h : Document.member? m.entries name = some (encode o)) : m.Has name ↔ o.isSome = true := by
  rw [has_iff_of_member h]
  cases o with
  | none => exact iff_of_false (fun hnull => hnull rfl) Bool.false_ne_true
  | some order => exact iff_of_true nofun rfl

end Members

namespace EntryPlan

/-- A plan that is read is consistent exactly if its document is. -/
theorem consistent_decode_iff {format : Format} {d : Document} {plan : EntryPlan}
    (h : decode format d = some plan) :
    ∃ m, Members.ofDocument? format Members.planNames d = some m ∧
      (plan.Consistent ↔ m.DescribesPlan) := by
  obtain ⟨m, hm, h⟩ := Option.bind_eq_some_iff.1 h
  simp only [Option.bind_eq_bind, Option.bind_eq_some_iff, Option.pure_def, Option.some.injEq] at h
  obtain ⟨accepted, haccepted, reason, hreason, entry, hentry, stop, hstop, oco, -, rfl⟩ := h
  refine ⟨m, hm, ?_⟩
  have hmark := Members.member?_bool_iff haccepted
  have htext := Members.member?_text_iff hreason
  constructor
  · intro hplan
    refine ⟨?_, ?_⟩
    · rw [hmark, htext]
      exact hplan.reason
    · rw [hmark, Members.has_iff_of_read hentry, Members.has_iff_of_read hstop]
      exact hplan.orders
  · intro hmembers
    refine ⟨?_, ?_⟩
    · rw [← hmark, ← htext]
      exact hmembers.reason
    · have horders := hmembers.orders
      rwa [hmark, Members.has_iff_of_read hentry, Members.has_iff_of_read hstop] at horders

/-- Writing and reading keeps a plan consistent. -/
theorem consistent_of_exchange {format : Format} {p q : EntryPlan} (hp : p.Consistent)
    (h : decode format (encode p) = some q) : q.Consistent := by
  obtain ⟨m, hm, hiff⟩ := consistent_decode_iff h
  -- the document is the record that was written, so that its members are those of the plan
  have hwritten : Members.ofDocument? format Members.planNames (encode p) = some ⟨false,
      [("accepted", encode p.accepted), ("reason", encode p.reason),
        ("entry_order", encode p.entryOrder), ("stop_order", encode p.stopOrder),
        ("oco_group", encode p.ocoGroup)]⟩ := ofDocument?_record rfl (by decide)
  have hmembers := Option.some.inj (hm.symm.trans hwritten)
  have hmark : Document.member? m.entries "accepted" = some (.bool p.accepted) := by
    rw [hmembers]
    rfl
  have htext : Document.member? m.entries "reason" = some (.text p.reason) := by
    rw [hmembers]
    rfl
  have hentry : m.Has "entry_order" ↔ p.entryOrder.isSome = true :=
    Members.has_iff_of_written (by rw [hmembers]; rfl)
  have hstop : m.Has "stop_order" ↔ p.stopOrder.isSome = true :=
    Members.has_iff_of_written (by rw [hmembers]; rfl)
  refine hiff.2 ⟨?_, ?_⟩
  · rw [hmark, htext]
    simpa using hp.reason
  · rw [hmark, hentry, hstop]
    simpa using hp.orders

/-- The plans that are made by one of the two ways to make a plan or by a planner, and those that were
so made before they were written and read. -/
inductive Obtained : EntryPlan → Prop
  | rejected (reason : String) : Obtained (.rejected reason)
  | entering (entry stop : OrderIntent) (oco : String) : Obtained (.entering entry stop oco)
  | built {ρ : Type} {p : Planner ρ} {oco : String} {r : EntryRequest} {state : ρ} {plan : EntryPlan}
      (h : (p.build oco r state).plan = .ok plan) : Obtained plan
  | exchanged {plan copy : EntryPlan} (h : Obtained plan)
      (hcopy : decode .json (encode plan) = some copy) : Obtained copy

theorem Obtained.consistent {plan : EntryPlan} (h : Obtained plan) : plan.Consistent := by
  induction h with
  | rejected reason => exact consistent_rejected reason
  | entering entry stop oco => exact consistent_entering entry stop oco
  | built hbuilt => exact consistent_of_build hbuilt
  | exchanged _ hcopy ih => exact consistent_of_exchange ih hcopy

/-- A plan that is made here is consistent, also after it was written and read.  Any other plan that is
read is consistent exactly if its document is. -/
theorem consistent_of_origin (plan : EntryPlan) :
    (Obtained plan → plan.Consistent) ∧
      ∀ d, decode .json d = some plan →
        ∃ m, Members.ofDocument? .json Members.planNames d = some m ∧
          (plan.Consistent ↔ m.DescribesPlan) := by
  refine ⟨?_, ?_⟩
  · intro hobtained
    exact hobtained.consistent
  · intro d hread
    exact consistent_decode_iff hread

/-- The plan that is rejected without a reason gets one, and keeps it when it is written and read. -/
theorem consistent_of_origin_of_no_reason :
    ∃ copy : EntryPlan, decode .json (encode (rejected "")) = some copy ∧ copy.reason = "rejected" ∧
      copy.Consistent :=
  ⟨rejected "", rfl, rfl, (consistent_of_origin _).1 (.exchanged (.rejected "") rfl)⟩

/-- A document with a mark and a reason, and without orders, is read as a plan that contradicts
itself, and so is a rejection without a reason. -/
theorem decoded_plan_inconsistent :
    (∃ plan : EntryPlan, decode .json (.record [("accepted", .bool true), ("reason", .text "x"),
        ("entry_order", .null), ("stop_order", .null), ("oco_group", .text "")]) = some plan ∧
      plan.accepted = true ∧ plan.reason ≠ "" ∧ plan.entryOrder = none ∧ plan.stopOrder = none ∧
      ¬plan.Consistent) ∧
    ∃ plan : EntryPlan, decode .json (.record [("accepted", .bool false), ("reason", .text ""),
        ("entry_order", .null), ("stop_order", .null), ("oco_group", .text "")]) = some plan ∧
      plan.accepted = false ∧ plan.reason = "" ∧ ¬plan.Consistent := by
  refine ⟨⟨⟨true, "x", none, none, ""⟩, rfl, rfl, by decide, rfl, rfl, ?_⟩,
    ⟨false, "", none, none, ""⟩, rfl, rfl, rfl, ?_⟩
  · intro h
    exact absurd (h.reason.2 rfl) (by decide)
  · intro h
    exact absurd (h.reason.1 rfl) Bool.false_ne_true

end EntryPlan
end EntryGate
