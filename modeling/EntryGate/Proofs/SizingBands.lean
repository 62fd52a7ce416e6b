import EntryGate.Proofs.RestoredValues
import EntryGate.Sizing.Sizer

/-!
# What a sizing chain decides

A chain takes the first answer that one of its rules gives, or else the answer of its fallback, and
then moves the quantity into a band.  The band is that of the mode which the answer was given under.
This need not be the mode that was asked for, since rules and sizers are free in what they answer; and
the fallback may be another chain, whose own bands have left their marks in the reason.

* `Tier.Built` are the tiers that can come up, and `Tier.Built.min_le_max` says that their bands are
  not empty;
* `Tier.clamp_of_contains`, `Tier.clamp_of_lt` and `Tier.clamp_of_gt` are all that a band does to a
  quantity and to its reason;
* `SizingChain.rawDecide_cases` and `SizingChain.decide_of_tiers` are the two steps of a chain, and
  `SizingChain.decides_within_band` is what they come to.
-/

namespace EntryGate

namespace Tier

/-- A tier that was made from the ends of its band, or that was read. -/
inductive Built : Tier → Prop where
  | new (min max : Nat) (tag : String) : Built (Tier.new min max tag)
  | decoded {format : Format} {d : Document} {t : Tier} : decode format d = some t → Built t

/-- The quantities of the band. -/
def Contains (t : Tier) (quantity : Nat) : Prop :=
  t.min ≤ quantity ∧ quantity ≤ t.max

theorem Built.min_le_max {t : Tier} (h : t.Built) : t.min ≤ t.max := by
  cases h with
  | new min max tag => exact min_le_max_new min max tag
  | decoded hdecode => exact min_le_max_of_decode _ _ _ hdecode

/-! ## Reasons -/

/-- The parts of a reason that are not empty, with plus signs between them. -/
def joined (parts : List String) : String :=
  "+".intercalate (parts.filter fun part => !part.isEmpty)

/-- A part that is appended makes the reason longer. -/
theorem length_lt_appendTag {tag : String} (h : tag ≠ "") (reason : String) :
    reason.length < (appendTag reason tag).length := by
  have hpos : 0 < tag.length := by
    rw [Nat.pos_iff_ne_zero]
    intro hzero
    exact h (String.length_eq_zero_iff.1 hzero)
  rw [appendTag]
  split
  · next hempty =>
    rw [String.isEmpty_iff.1 hempty]
    exact hpos
  · rw [String.length_append, String.length_append]
    omega

theorem clampedReason_ne {marker : String} (h : marker ≠ "") (t : Tier) (reason : String) :
    t.clampedReason reason marker ≠ reason := by
  -- with or without a tag behind it, the marker has made the reason longer
  have hmarker := length_lt_appendTag h reason
  have hlonger : reason.length < (t.clampedReason reason marker).length := by
    rw [clampedReason]
    split
    · exact hmarker
    · next htag =>
      have htag := length_lt_appendTag (fun heq => htag (String.isEmpty_iff.2 heq))
        (appendTag reason marker)
      exact Nat.lt_trans hmarker htag
  intro heq
  rw [heq] at hlonger
  exact Nat.lt_irrefl _ hlonger

/-- The reason, the kind of clamp and the tag of the tier follow each other, as far as there are any. -/
theorem clampedReason_eq {marker : String} (h : marker ≠ "") (t : Tier) (reason : String) :
    t.clampedReason reason marker = joined [reason, marker, t.tag] := by
  rw [clampedReason, joined]
  -- an empty reason has no plus sign after it, and an empty tag none before it
  by_cases hreason : reason = "" <;> by_cases htag : t.tag = "" <;>
    simp [appendTag, hreason, htag, h, String.append_assoc]

/-! ## Bands -/

theorem contains_or (t : Tier) (quantity : Nat) :
    t.Contains quantity ∨ quantity < t.min ∨ t.max < quantity := by
  rw [Contains]
  omega

theorem clamp_of_contains {t : Tier} {quantity : Nat} (h : t.Contains quantity) (reason : String) :
    t.clamp quantity reason = (quantity, reason) := by
  obtain ⟨hmin, hmax⟩ := h
  rw [clamp, if_neg (Nat.not_lt.2 hmin), if_neg (Nat.not_lt.2 hmax)]

theorem clamp_of_lt {t : Tier} {quantity : Nat} (h : quantity < t.min) (reason : String) :
    t.clamp quantity reason = (t.min, t.clampedReason reason "ClampedMin") :=
  if_pos h

theorem clamp_of_gt {t : Tier} (hband : t.min ≤ t.max) {quantity : Nat} (h : t.max < quantity)
    (reason : String) :
    t.clamp quantity reason = (t.max, t.clampedReason reason "ClampedMax") := by
  have hmin : ¬quantity < t.min := by omega
  rw [clamp, if_neg hmin, if_pos h]

section Clamped

variable {t : Tier} (hband : t.min ≤ t.max) (quantity : Nat) (reason : String)

include hband

theorem contains_clamp : t.Contains (t.clamp quantity reason).1 := by
  rcases t.contains_or quantity with hin | hlt | hgt
  · rw [clamp_of_contains hin]
    exact hin
  · rw [clamp_of_lt hlt]
    exact ⟨Nat.le_refl _, hband⟩
  · rw [clamp_of_gt hband hgt]
    exact ⟨hband, Nat.le_refl _⟩

/-- No other quantity of the band is as close to the one that was given. -/
theorem clamp_nearest {other : Nat} (hother : t.Contains other)
    (hne : other ≠ (t.clamp quantity reason).1) :
    (((t.clamp quantity reason).1 : Int) - quantity).natAbs < ((other : Int) - quantity).natAbs := by
  obtain ⟨hmin, hmax⟩ := hother
  -- a quantity outside the band is moved to the end that lies between it and the rest of the band
  rcases t.contains_or quantity with hin | hlt | hgt
  · rw [clamp_of_contains hin] at hne ⊢
    omega
  · rw [clamp_of_lt hlt] at hne ⊢
    omega
  · rw [clamp_of_gt hband hgt] at hne ⊢
    omega

/-- The reason tells whether the quantity was moved. -/
theorem clamp_reason_iff : (t.clamp quantity reason).2 = reason ↔ t.Contains quantity := by
  rcases t.contains_or quantity with hin | hlt | hgt
  · rw [clamp_of_contains hin]
    exact iff_of_true rfl hin
  · rw [clamp_of_lt hlt]
    refine iff_of_false (clampedReason_ne (by decide) t reason) ?_
    rintro ⟨hmin, -⟩
    omega
  · rw [clamp_of_gt hband hgt]
    refine iff_of_false (clampedReason_ne (by decide) t reason) ?_
    rintro ⟨-, hmax⟩
    omega

end Clamped

end Tier

/-! ## Chains -/

namespace SizingChain

section Steps

variable (c : SizingChain) (intent : PositionIntent) (mode : RiskMode)

/-- The answer is that of the first rule that has one, and of the fallback if none has. -/
theorem rawDecide_cases :
    (∃ before rule after, c.rules = before ++ rule :: after ∧
        rule.tryDecide intent mode = some (c.rawDecide intent mode) ∧
        ∀ earlier ∈ before, earlier.tryDecide intent mode = none) ∨
      (∀ rule ∈ c.rules, rule.tryDecide intent mode = none) ∧
        c.rawDecide intent mode = c.fallback.decide intent mode := by
  rw [rawDecide]
  cases hfound : c.rules.findSome? fun r => r.tryDecide intent mode with
  | some d => exact .inl (List.findSome?_eq_some_iff.1 hfound)
  | none => exact .inr ⟨List.findSome?_eq_none_iff.1 hfound, rfl⟩

theorem decide_of_no_tiers (h : c.tiers = none) : c.decide intent mode = c.rawDecide intent mode := by
  rw [decide, h]

variable {c} in
theorem decide_of_tiers {tiers : RiskTiers} (h : c.tiers = some tiers) :
    c.decide intent mode =
      let r := c.rawDecide intent mode
      let clamped := (tiers.forMode r.mode).clamp r.quantity r.reason
      ⟨clamped.1, clamped.2, r.mode⟩ := by
  rw [decide, h]

end Steps

/-- A chain answers with the first of its rules that does not decline, or else with its fallback.
Without tiers that is its decision.  With tiers the decision keeps the mode, its quantity is the one of
the band that is closest to the answer, and the reason is the answer's exactly if the quantity did not
have to be moved; otherwise the kind of clamp and the tag of the tier are joined to it.  A second clamp
changes nothing. -/
theorem decides_within_band (c : SizingChain) (intent : PositionIntent) (mode : RiskMode) :
    let r := c.rawDecide intent mode
    let d := c.decide intent mode
    ((∃ before rule after, c.rules = before ++ rule :: after ∧
          rule.tryDecide intent mode = some r ∧
          ∀ earlier ∈ before, earlier.tryDecide intent mode = none) ∨
        (∀ rule ∈ c.rules, rule.tryDecide intent mode = none) ∧
          r = c.fallback.decide intent mode) ∧
      (c.tiers = none → d = r) ∧
      ∀ tiers, c.tiers = some tiers → (∀ m, (tiers.forMode m).Built) →
        let t := tiers.forMode r.mode
        d.mode = r.mode ∧
          t.Contains d.quantity ∧
          (∀ other, t.Contains other → other ≠ d.quantity →
            ((d.quantity : Int) - r.quantity).natAbs < ((other : Int) - r.quantity).natAbs) ∧
          (d.reason = r.reason ↔ t.Contains r.quantity) ∧
          (r.quantity < t.min → d.reason = Tier.joined [r.reason, "ClampedMin", t.tag]) ∧
          (t.max < r.quantity → d.reason = Tier.joined [r.reason, "ClampedMax", t.tag]) ∧
          t.clamp d.quantity d.reason = (d.quantity, d.reason) := by
  intro r d
  refine ⟨c.rawDecide_cases intent mode, c.decide_of_no_tiers intent mode, ?_⟩
  intro tiers htiers hbuilt t
  -- the tier is that of the answer, so `mode` plays no part from here on
  have hband : t.min ≤ t.max := (hbuilt r.mode).min_le_max
  have hd : d = ⟨(t.clamp r.quantity r.reason).1, (t.clamp r.quantity r.reason).2, r.mode⟩ :=
    decide_of_tiers intent mode htiers
  have hin : t.Contains (t.clamp r.quantity r.reason).1 :=
    Tier.contains_clamp hband r.quantity r.reason
  rw [hd]
  refine ⟨rfl, hin, ?_, Tier.clamp_reason_iff hband r.quantity r.reason, ?_, ?_,
    Tier.clamp_of_contains hin _⟩
  · intro other hother hne
    exact Tier.clamp_nearest hband r.quantity r.reason hother hne
  · intro hlt
    rw [Tier.clamp_of_lt hlt]
    exact Tier.clampedReason_eq (by decide) t r.reason
  · intro hgt
    rw [Tier.clamp_of_gt hband hgt]
    exact Tier.clampedReason_eq (by decide) t r.reason

/-- A chain in a chain.  The only rule of the outer one declines, and the inner one answers under
another mode than the one it was asked for, with a quantity that its own tier has lowered to 1.  The
band of the outer one was given with its ends in the wrong order and is 4 to 4. -/
theorem decides_within_band_of_nested :
    let answer : Sizer := ⟨"answer", fun _ _ => ⟨9, "", .highRisk⟩⟩
    let inner : SizingChain := ⟨[], answer, some .defaults⟩
    let tiers : RiskTiers := ⟨.new 1 1 "ECP", .new 1 2 "PCP", .new 1 3 "DCP", .new 4 2 ""⟩
    let c : SizingChain := ⟨[SymbolQuantities.empty.rule], inner.toSizer, some tiers⟩
    let r := c.rawDecide ⟨"ES", .long⟩ .defaultProtection
    let d := c.decide ⟨"ES", .long⟩ .defaultProtection
    r = ⟨1, "ClampedMax+HR", .highRisk⟩ ∧ (∀ m, (tiers.forMode m).Built) ∧
      d.mode = .highRisk ∧ (Tier.new 4 2 "").Contains d.quantity ∧ d.reason ≠ r.reason ∧
      d.reason = "ClampedMax+HR+ClampedMin" := by
  intro answer inner tiers c r d
  have hr : r = ⟨1, "ClampedMax+HR", .highRisk⟩ := by decide
  have hbuilt : ∀ m, (tiers.forMode m).Built := by
    intro m
    cases m with
    | extremeProtection => exact .new 1 1 "ECP"
    | protectivePreservation => exact .new 1 2 "PCP"
    | defaultProtection => exact .new 1 3 "DCP"
    | highRisk => exact .new 4 2 ""
  obtain ⟨-, -, hclamped⟩ := decides_within_band c ⟨"ES", .long⟩ .defaultProtection
  obtain ⟨hmode, hin, -, hreason, hmin, -, -⟩ := hclamped tiers rfl hbuilt
  refine ⟨hr, hbuilt, hmode, hin, ?_, ?_⟩
  · rw [ne_eq, hreason]
    rintro ⟨hle, -⟩
    revert hle
    decide
  · rw [hmin (by decide)]
    decide

end SizingChain
end EntryGate
