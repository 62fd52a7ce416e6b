import EntryGate.Proofs.DecimalExactness
import EntryGate.Proofs.FixedDistanceStops
import Mathlib.Order.Bounds.Basic

/-!
# Nested composites

A composite takes the tightest opinion of its parts, and of two stops of the same value the one on the
left, with its own scale.  This choice is associative, so it does not matter how a tree groups its
simple strategies: its answer is that of the flat composite of its leaves, down to the scale of the
stop and to the fault.

As a number the answer depends on even less.  It is the greatest of the leaves' stops for a long
position and the least for a short one, and so the same for every tree with the same leaves, whatever
their order and however often each of them occurs.

* `StopStrategy.tighter_assoc` is the law of two choices in a row;
* `StopStrategy.stopAll_leaves` takes a tree apart into its leaves;
* `StopStrategy.Rearranged` relates trees that differ in the order, the grouping and the repetition of
  their parts, and `StopStrategy.Rearranged.mem_leaves_iff` says what they have in common;
* `StopStrategy.stop_of_leaves` is the result.
-/

namespace EntryGate

namespace StopStrategy

variable {entry current : Decimal} {isLong : Bool}

/-! ## The tighter of two opinions -/

theorem tighter_of_favour_lt {a b : Decimal} (h : a.favour isLong < b.favour isLong) :
    tighter isLong a b = b := by
  cases isLong with
  | true => exact if_pos h
  | false => exact if_pos (Int.neg_lt_neg_iff.1 h)

/-- The stop on the left stays unless the other one is strictly tighter. -/
theorem tighter_of_favour_le {a b : Decimal} (h : b.favour isLong ≤ a.favour isLong) :
    tighter isLong a b = a := by
  cases isLong with
  | true => exact if_neg (Decimal.not_lt.2 h)
  | false => exact if_neg (Decimal.not_lt.2 (Int.neg_le_neg_iff.1 h))

theorem tighter_assoc (isLong : Bool) (a b c : Decimal) :
    tighter isLong (tighter isLong a b) c = tighter isLong a (tighter isLong b c) := by
  by_cases hab : a.favour isLong < b.favour isLong
  · rw [tighter_of_favour_lt hab]
    by_cases hbc : b.favour isLong < c.favour isLong
    · rw [tighter_of_favour_lt hbc, tighter_of_favour_lt (by omega)]
    · rw [tighter_of_favour_le (by omega), tighter_of_favour_lt hab]
  · rw [tighter_of_favour_le (Int.not_lt.1 hab)]
    by_cases hbc : b.favour isLong < c.favour isLong
    · rw [tighter_of_favour_lt hbc]
    · -- the first stop is kept twice over, against the second and so against the third
      rw [tighter_of_favour_le (b := c) (by omega), tighter_of_favour_le (b := c) (by omega),
        tighter_of_favour_le (by omega)]

theorem tighterOpinion_none (isLong : Bool) (a : Option Decimal) :
    tighterOpinion isLong a none = a := by
  cases a <;> rfl

theorem tighterOpinion_assoc (isLong : Bool) (a b c : Option Decimal) :
    tighterOpinion isLong (tighterOpinion isLong a b) c =
      tighterOpinion isLong a (tighterOpinion isLong b c) := by
  cases a with
  | none => rfl
  | some a =>
    cases b with
    | none => rfl
    | some b =>
      cases c with
      | none => rfl
      | some c => exact congrArg some (tighter_assoc isLong a b c)

/-! ## Lists of strategies -/

theorem stopAll_append (best : Option Decimal) (stops others : List StopStrategy) :
    stopAll entry current isLong best (stops ++ others) =
      stopAll entry current isLong best stops >>= fun best =>
        stopAll entry current isLong best others := by
  induction stops generalizing best with
  | nil => rfl
  | cons s rest ih =>
    rw [List.cons_append, stopAll, stopAll, bind_assoc]
    exact bind_congr fun opinion => ih _

/-- An opinion that is there already may as well be compared last. -/
theorem stopAll_eq_bind (best : Option Decimal) (stops : List StopStrategy) :
    stopAll entry current isLong best stops =
      stopAll entry current isLong none stops >>= fun opinion =>
        .ok (tighterOpinion isLong best opinion) := by
  induction stops generalizing best with
  | nil =>
    rw [stopAll, stopAll]
    exact congrArg Except.ok (tighterOpinion_none isLong best).symm
  | cons s rest ih =>
    rw [stopAll, stopAll, bind_assoc]
    refine bind_congr fun opinion => ?_
    -- both sides compare with the rest of the list last, the right one without `best`
    rw [ih (tighterOpinion isLong best opinion), ih (tighterOpinion isLong none opinion), bind_assoc]
    refine bind_congr fun later => ?_
    exact congrArg Except.ok (tighterOpinion_assoc isLong best opinion later)

/-! ## Leaves -/

theorem leavesAll_eq_flatMap (stops : List StopStrategy) : leavesAll stops = stops.flatMap leaves := by
  induction stops with
  | nil => rfl
  | cons s rest ih => rw [leavesAll, ih, List.flatMap_cons]

mutual

/-- The leaves of a tree bring in what the tree brings in. -/
theorem stopAll_leaves : ∀ (s : StopStrategy) (best : Option Decimal),
    stopAll entry current isLong best s.leaves =
      s.stop entry current isLong >>= fun opinion => .ok (tighterOpinion isLong best opinion)
  | .ticks _ _, _ => rfl
  | .percent _, _ => rfl
  | .composite stops, best => by
    rw [leaves, stopAll_leavesAll stops best, stop]
    exact stopAll_eq_bind best stops

theorem stopAll_leavesAll : ∀ (stops : List StopStrategy) (best : Option Decimal),
    stopAll entry current isLong best (leavesAll stops) = stopAll entry current isLong best stops
  | [], _ => rfl
  | s :: rest, best => by
    rw [leavesAll, stopAll_append, stopAll_leaves s best, bind_assoc, stopAll]
    exact bind_congr fun opinion => stopAll_leavesAll rest _

end

mutual

/-- No leaf is a composite. -/
theorem ne_composite_of_mem_leaves : ∀ (s : StopStrategy), ∀ leaf ∈ s.leaves,
    ∀ stops, leaf ≠ .composite stops
  | .ticks _ _, leaf, h, _ => by
    cases List.mem_singleton.1 h
    intro heq
    cases heq
  | .percent _, leaf, h, _ => by
    cases List.mem_singleton.1 h
    intro heq
    cases heq
  | .composite parts, leaf, h, stops => by
    rw [leaves] at h
    exact ne_composite_of_mem_leavesAll parts leaf h stops

theorem ne_composite_of_mem_leavesAll : ∀ (parts : List StopStrategy), ∀ leaf ∈ leavesAll parts,
    ∀ stops, leaf ≠ .composite stops
  | [], _, h, _ => by cases h
  | s :: rest, leaf, h, stops => by
    rw [leavesAll] at h
    rcases List.mem_append.1 h with hfirst | hrest
    · exact ne_composite_of_mem_leaves s leaf hfirst stops
    · exact ne_composite_of_mem_leavesAll rest leaf hrest stops

end

/-- The answer of a tree is that of the flat composite of its leaves, a fault included. -/
theorem stop_eq_flat (s : StopStrategy) :
    s.stop entry current isLong = (composite s.leaves).stop entry current isLong := by
  rw [stop, stopAll_leaves s none]
  exact (bind_pure (s.stop entry current isLong)).symm

/-! ## The stops of the leaves -/

/-- The stops that some strategy of a list has as its opinion. -/
def voiced (entry current : Decimal) (isLong : Bool) (stops : List StopStrategy) : Set Decimal :=
  {x | ∃ s ∈ stops, s.stop entry current isLong = .ok (some x)}

/-- The answer is one of the stops, and none of them is tighter; or there is no stop to choose. -/
def Tightest (isLong : Bool) (stops : Set Decimal) : Option Decimal → Prop
  | none => stops = ∅
  | some x => x ∈ stops ∧ ∀ y ∈ stops, y.favour isLong ≤ x.favour isLong

namespace Tightest

/-- The tighter of the answers for two sets of stops is the answer for both sets together. -/
theorem union {stops others : Set Decimal} {a b : Option Decimal} (ha : Tightest isLong stops a)
    (hb : Tightest isLong others b) :
    Tightest isLong (stops ∪ others) (tighterOpinion isLong a b) := by
  cases a with
  | none =>
    have hempty : stops = ∅ := ha
    rw [hempty, Set.empty_union]
    exact hb
  | some x =>
    cases b with
    | none =>
      have hempty : others = ∅ := hb
      rw [hempty, Set.union_empty]
      exact ha
    | some z =>
      rcases ha with ⟨hx, hxs⟩
      rcases hb with ⟨hz, hzs⟩
      constructor
      · rcases Decimal.tighter_eq_or isLong x z with hkept | htaken
        · rw [hkept]
          exact .inl hx
        · rw [htaken]
          exact .inr hz
      · intro y hy
        rw [Decimal.favour_tighter]
        rcases hy with hy | hy
        · exact Int.le_trans (hxs y hy) (Int.le_max_left _ _)
        · exact Int.le_trans (hzs y hy) (Int.le_max_right _ _)

/-- Two answers for the same stops have the same value. -/
theorem value_eq {stops : Set Decimal} {a b : Option Decimal} (ha : Tightest isLong stops a)
    (hb : Tightest isLong stops b) : b.map Decimal.value = a.map Decimal.value := by
  cases a with
  | none =>
    cases b with
    | none => rfl
    | some z =>
      have hempty : stops = ∅ := ha
      exact absurd hb.1 (hempty ▸ Set.notMem_empty z)
  | some x =>
    cases b with
    | none =>
      have hempty : stops = ∅ := hb
      exact absurd ha.1 (hempty ▸ Set.notMem_empty x)
    | some z =>
      have hfavour : z.favour isLong = x.favour isLong :=
        Int.le_antisymm (ha.2 z hb.1) (hb.2 x ha.1)
      exact congrArg some (Decimal.value_eq_of_units (Decimal.units_eq_of_favour hfavour))

theorem isGreatest {stops : Set Decimal} {x : Decimal} (h : Tightest true stops (some x)) :
    IsGreatest (Decimal.value '' stops) x.value := by
  refine ⟨Set.mem_image_of_mem _ h.1, ?_⟩
  rintro _ ⟨y, hy, rfl⟩
  exact Decimal.le_iff_value.1 (h.2 y hy)

theorem isLeast {stops : Set Decimal} {x : Decimal} (h : Tightest false stops (some x)) :
    IsLeast (Decimal.value '' stops) x.value := by
  refine ⟨Set.mem_image_of_mem _ h.1, ?_⟩
  rintro _ ⟨y, hy, rfl⟩
  exact Decimal.le_iff_value.1 (Int.neg_le_neg_iff.1 (h.2 y hy))

end Tightest

theorem voiced_nil : voiced entry current isLong [] = ∅ := by
  simp [voiced]

theorem voiced_cons (s : StopStrategy) (rest : List StopStrategy) :
    voiced entry current isLong (s :: rest) =
      voiced entry current isLong [s] ∪ voiced entry current isLong rest := by
  ext x
  simp [voiced]

/-- The opinion of a strategy is the answer for the stops of that strategy alone. -/
theorem tightest_singleton {s : StopStrategy} {opinion : Option Decimal}
    (h : s.stop entry current isLong = .ok opinion) :
    Tightest isLong (voiced entry current isLong [s]) opinion := by
  cases opinion <;> simp [Tightest, voiced, h]

/-- The answer of a list of strategies is the tightest of their stops. -/
theorem tightest_stopAll {stops : List StopStrategy} {answer : Option Decimal}
    (h : stopAll entry current isLong none stops = .ok answer) :
    Tightest isLong (voiced entry current isLong stops) answer := by
  induction stops generalizing answer with
  | nil =>
    rw [stopAll] at h
    cases h
    exact voiced_nil
  | cons s rest ih =>
    obtain ⟨opinion, hopinion, hrest⟩ := stopAll_cons_eq_ok.1 h
    -- the answer of the rest does not depend on the first opinion, which is compared with it last
    rw [stopAll_eq_bind] at hrest
    obtain ⟨later, hlater, hanswer⟩ := Fault.bind_eq_ok.1 hrest
    cases hanswer
    rw [voiced_cons]
    exact (tightest_singleton hopinion).union (ih hlater)

/-- A list of strategies has an answer exactly if each of them has one. -/
theorem stopAll_returns_iff (best : Option Decimal) (stops : List StopStrategy) :
    (∃ answer, stopAll entry current isLong best stops = .ok answer) ↔
      ∀ s ∈ stops, ∃ opinion, s.stop entry current isLong = .ok opinion := by
  induction stops generalizing best with
  | nil => simp [stopAll]
  | cons s rest ih =>
    simp only [stopAll_cons_eq_ok, List.forall_mem_cons]
    constructor
    · rintro ⟨answer, opinion, hopinion, hrest⟩
      exact ⟨⟨opinion, hopinion⟩, (ih _).1 ⟨answer, hrest⟩⟩
    · rintro ⟨⟨opinion, hopinion⟩, hrest⟩
      obtain ⟨answer, hanswer⟩ := (ih (tighterOpinion isLong best opinion)).2 hrest
      exact ⟨answer, opinion, hopinion, hanswer⟩

/-! ### Trees -/

theorem tightest_stop {s : StopStrategy} {answer : Option Decimal}
    (h : s.stop entry current isLong = .ok answer) :
    Tightest isLong (voiced entry current isLong s.leaves) answer := by
  rw [stop_eq_flat, stop] at h
  exact tightest_stopAll h

theorem returns_iff (s : StopStrategy) :
    (∃ answer, s.stop entry current isLong = .ok answer) ↔
      ∀ leaf ∈ s.leaves, ∃ opinion, leaf.stop entry current isLong = .ok opinion := by
  rw [stop_eq_flat, stop]
  exact stopAll_returns_iff none s.leaves

/-- A tree has no opinion exactly if none of its leaves has one. -/
theorem stop_eq_none_iff (s : StopStrategy) :
    s.stop entry current isLong = .ok none ↔
      ∀ leaf ∈ s.leaves, leaf.stop entry current isLong = .ok none := by
  constructor
  · intro h leaf hleaf
    have hnone : voiced entry current isLong s.leaves = ∅ := tightest_stop h
    obtain ⟨opinion, hopinion⟩ := s.returns_iff.1 ⟨none, h⟩ leaf hleaf
    cases opinion with
    | none => exact hopinion
    | some x =>
      have hx : x ∈ voiced entry current isLong s.leaves := ⟨leaf, hleaf, hopinion⟩
      exact absurd hx (hnone ▸ Set.notMem_empty x)
  · intro h
    obtain ⟨answer, hanswer⟩ := s.returns_iff.2 fun leaf hleaf => ⟨none, h leaf hleaf⟩
    cases answer with
    | none => exact hanswer
    | some x =>
      obtain ⟨⟨leaf, hleaf, hx⟩, -⟩ := tightest_stop hanswer
      cases (h leaf hleaf).symm.trans hx

/-- Trees with the same leaves have answers of the same value. -/
theorem stop_of_same_leaves {s t : StopStrategy} (h : ∀ leaf, leaf ∈ s.leaves ↔ leaf ∈ t.leaves)
    {answer : Option Decimal} (hs : s.stop entry current isLong = .ok answer) :
    ∃ other, t.stop entry current isLong = .ok other ∧
      other.map Decimal.value = answer.map Decimal.value := by
  have hleaves := s.returns_iff.1 ⟨answer, hs⟩
  obtain ⟨other, hother⟩ := t.returns_iff.2 fun leaf hleaf => hleaves leaf ((h leaf).2 hleaf)
  have hvoiced : voiced entry current isLong t.leaves = voiced entry current isLong s.leaves := by
    simp only [voiced, h]
  exact ⟨other, hother, (tightest_stop hs).value_eq (hvoiced ▸ tightest_stop hother)⟩

/-! ## Rearranged trees -/

/-- Trees that differ only in the order, the grouping and the repetition of parts, at any depth. -/
inductive Rearranged : StopStrategy → StopStrategy → Prop where
  | refl (s : StopStrategy) : Rearranged s s
  | symm {s t : StopStrategy} : Rearranged s t → Rearranged t s
  | trans {s t u : StopStrategy} : Rearranged s t → Rearranged t u → Rearranged s u
  /-- Parts stand in another order. -/
  | permuted {stops others : List StopStrategy} :
      stops.Perm others → Rearranged (.composite stops) (.composite others)
  /-- Parts that follow each other become one part. -/
  | grouped (before group after : List StopStrategy) :
      Rearranged (.composite (before ++ group ++ after))
        (.composite (before ++ .composite group :: after))
  /-- A strategy becomes the only part of a composite. -/
  | wrapped (s : StopStrategy) : Rearranged s (.composite [s])
  /-- A part is repeated. -/
  | repeated (before after : List StopStrategy) (s : StopStrategy) :
      Rearranged (.composite (before ++ s :: after)) (.composite (before ++ s :: s :: after))
  /-- A part is rearranged in its place. -/
  | within (before after : List StopStrategy) {s t : StopStrategy} :
      Rearranged s t →
        Rearranged (.composite (before ++ s :: after)) (.composite (before ++ t :: after))

theorem mem_leaves_composite {leaf : StopStrategy} {stops : List StopStrategy} :
    leaf ∈ (composite stops).leaves ↔ ∃ s ∈ stops, leaf ∈ s.leaves := by
  rw [leaves, leavesAll_eq_flatMap, List.mem_flatMap]

/-- Rearranged trees have the same leaves. -/
theorem Rearranged.mem_leaves_iff {s t : StopStrategy} (h : Rearranged s t) (leaf : StopStrategy) :
    leaf ∈ s.leaves ↔ leaf ∈ t.leaves := by
  induction h with
  | refl s => rfl
  | symm _ ih => exact ih.symm
  | trans _ _ ih₁ ih₂ => exact ih₁.trans ih₂
  -- in the other cases a leaf of the composite is one of some part, and the parts are compared
  | permuted hperm => simp only [mem_leaves_composite, hperm.mem_iff]
  | grouped before group after => simp [mem_leaves_composite, or_and_right, exists_or]
  | wrapped s => simp [mem_leaves_composite]
  | repeated before after s => simp [mem_leaves_composite]
  | within before after _ ih => simp [mem_leaves_composite, ih, or_and_right, exists_or]

/-- The answer of a tree of strategies in terms of its leaves, none of which is a composite.  It is
that of the flat composite of the leaves from left to right, down to the scale of the stop and to the
fault; and there is an answer exactly if no leaf ends in a fault.  The tree has no opinion exactly if
no leaf has one.  The value of its stop is otherwise the greatest of the leaves' stops for a long
position and the least for a short one, so that another order, another grouping or a repetition of
parts does not change it. -/
theorem stop_of_leaves (s : StopStrategy) (entry current : Decimal) (isLong : Bool) :
    (∀ leaf ∈ s.leaves, ∀ stops, leaf ≠ .composite stops) ∧
      s.stop entry current isLong = (composite s.leaves).stop entry current isLong ∧
      ((∃ answer, s.stop entry current isLong = .ok answer) ↔
        ∀ leaf ∈ s.leaves, ∃ opinion, leaf.stop entry current isLong = .ok opinion) ∧
      (s.stop entry current isLong = .ok none ↔
        ∀ leaf ∈ s.leaves, leaf.stop entry current isLong = .ok none) ∧
      (∀ x, s.stop entry current isLong = .ok (some x) →
        if isLong then IsGreatest (Decimal.value '' voiced entry current isLong s.leaves) x.value
        else IsLeast (Decimal.value '' voiced entry current isLong s.leaves) x.value) ∧
      ∀ t answer, Rearranged s t → s.stop entry current isLong = .ok answer →
        ∃ other, t.stop entry current isLong = .ok other ∧
          other.map Decimal.value = answer.map Decimal.value := by
  refine ⟨s.ne_composite_of_mem_leaves, stop_eq_flat s, s.returns_iff, s.stop_eq_none_iff, ?_, ?_⟩
  · intro x hx
    have htightest := tightest_stop hx
    cases isLong with
    | true => exact htightest.isGreatest
    | false => exact htightest.isLeast
  · intro t answer hst hanswer
    exact stop_of_same_leaves hst.mem_leaves_iff hanswer

/-- A long position at 100 with two stops of the same value, 99 at one tick and 99.00 at one percent.
The tree has the tick on the left and answers 99; with the percentage in front, the group dissolved and
the tick repeated it answers 99.00, which is the same number. -/
theorem stop_of_leaves_of_tie :
    let price : Decimal := .whole false 100 (by decide)
    let percentage : StopStrategy := .percent ⟨false, 1, 2, by decide, by decide⟩
    let tick : StopStrategy := .ticks 1 .one
    let idle : StopStrategy := .percent .zero
    let s : StopStrategy := .composite [.composite [idle, tick], percentage]
    let t : StopStrategy := .composite [percentage, idle, tick, tick]
    let first : Decimal := .whole false 99 (by decide)
    let second : Decimal := ⟨false, 9900, 2, by decide, by decide⟩
    s.stop price price true = .ok (some first) ∧ t.stop price price true = .ok (some second) ∧
      first ≠ second ∧ second.value = first.value ∧
      IsGreatest (Decimal.value '' voiced price price true [idle, tick, percentage]) first.value := by
  intro price percentage tick idle s t first second
  have hs : s.stop price price true = .ok (some first) := by decide +kernel
  have ht : t.stop price price true = .ok (some second) := by decide +kernel
  have hst : Rearranged s t :=
    .trans (.permuted (.swap percentage (.composite [idle, tick]) []))
      (.trans (.symm (.grouped [percentage] [idle, tick] []))
        (.repeated [percentage, idle] [] tick))
  obtain ⟨-, -, -, -, hgreatest, hrearranged⟩ := stop_of_leaves s price price true
  obtain ⟨other, hother, hvalue⟩ := hrearranged t (some first) hst hs
  cases ht.symm.trans hother
  exact ⟨hs, ht, by decide, Option.some.inj hvalue, hgreatest first hs⟩

end StopStrategy

end EntryGate
