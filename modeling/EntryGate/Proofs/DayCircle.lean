import EntryGate.Session.Window
import Mathlib.Order.Circular

/-!
# Windows on the circle of the day

The times of day follow each other in a circle, since midnight comes after the last of them.  A window
is an arc of that circle, from its start forwards to its finish.  Seen like this a window over midnight
is like any other one, and the window with its start at its finish is the whole circle.

Outside leap seconds the circle is that of the integers modulo the nanoseconds of a day, and how far
one time is ahead of another is a difference of such integers.

* `TimeWindow.contains_iff_btw` says which arc a window is, for every window and every time, those in
  leap seconds included;
* `TimeOfDay.btw_iff_emod` measures arcs in nanoseconds;
* `TimeWindow.contains_cyclic` is the result for the two windows between two times.
-/

namespace EntryGate

namespace TimeOfDay

instance : LinearOrder TimeOfDay where
  le_refl a := Nat.le_refl a.rank
  le_trans _ _ _ := Nat.le_trans
  lt_iff_le_not_ge _ _ := Nat.lt_iff_le_and_not_ge
  le_antisymm _ _ h h' := rank_injective (Nat.le_antisymm h h')
  le_total a b := Nat.le_total a.rank b.rank
  toDecidableLE := inferInstance

/-- The day as a circle: midnight follows on the last of its times. -/
instance : CircularOrder TimeOfDay := LinearOrder.toCircularOrder TimeOfDay

/-- Going forwards from `a`, one comes to `b` no later than to `c`. -/
theorem btw_iff {a b c : TimeOfDay} :
    btw a b c ↔ a ≤ b ∧ b ≤ c ∨ b ≤ c ∧ c ≤ a ∨ c ≤ a ∧ a ≤ b :=
  Iff.rfl

/-! ## Nanoseconds -/

/-- Nanoseconds since midnight, where no leap second is counted. -/
def nanosOfDay (t : TimeOfDay) : Int :=
  t.seconds * 1000000000 + t.nanos

/-- The nanoseconds of a day without a leap second. -/
def nanosPerDay : Int :=
  86400 * 1000000000

variable {a b : TimeOfDay}

theorem isLeap_eq_false_iff : a.isLeap = false ↔ a.nanos < 1000000000 := by
  simp [isLeap]

theorem nanosOfDay_nonneg (t : TimeOfDay) : 0 ≤ t.nanosOfDay := by
  rw [nanosOfDay]
  omega

theorem nanosOfDay_lt (h : a.isLeap = false) : a.nanosOfDay < nanosPerDay := by
  rw [isLeap_eq_false_iff] at h
  have hseconds := a.seconds_lt
  rw [nanosOfDay, nanosPerDay]
  omega

/-- Outside leap seconds the order is that of the nanoseconds. -/
theorem le_iff_nanosOfDay (ha : a.isLeap = false) (hb : b.isLeap = false) :
    a ≤ b ↔ a.nanosOfDay ≤ b.nanosOfDay := by
  rw [isLeap_eq_false_iff] at ha hb
  show a.rank ≤ b.rank ↔ _
  rw [rank, rank, nanosOfDay, nanosOfDay]
  omega

/-- The distance from a time to one that is not before it. -/
theorem emod_sub_of_le (hb : b.isLeap = false) (h : a.nanosOfDay ≤ b.nanosOfDay) :
    (b.nanosOfDay - a.nanosOfDay) % nanosPerDay = b.nanosOfDay - a.nanosOfDay := by
  have hstart := a.nanosOfDay_nonneg
  have hend := nanosOfDay_lt hb
  exact Int.emod_eq_of_lt (by omega) (by omega)

/-- The distance from a time to an earlier one, which is over midnight. -/
theorem emod_sub_of_gt (ha : a.isLeap = false) (h : b.nanosOfDay < a.nanosOfDay) :
    (b.nanosOfDay - a.nanosOfDay) % nanosPerDay = b.nanosOfDay - a.nanosOfDay + nanosPerDay := by
  have hstart := b.nanosOfDay_nonneg
  have hend := nanosOfDay_lt ha
  rw [← Int.add_emod_right]
  exact Int.emod_eq_of_lt (by omega) (by omega)

/-- Between two different times lies what is not further ahead of the first than the second is. -/
theorem btw_iff_emod {t : TimeOfDay} (ha : a.isLeap = false) (hb : b.isLeap = false)
    (ht : t.isLeap = false) (hne : a ≠ b) :
    btw a t b ↔ (t.nanosOfDay - a.nanosOfDay) % nanosPerDay ≤
      (b.nanosOfDay - a.nanosOfDay) % nanosPerDay := by
  have hab : a.nanosOfDay ≠ b.nanosOfDay := by
    intro heq
    exact hne (le_antisymm ((le_iff_nanosOfDay ha hb).2 heq.le) ((le_iff_nanosOfDay hb ha).2 heq.ge))
  have hb₀ := b.nanosOfDay_nonneg
  have ht₀ := t.nanosOfDay_nonneg
  have hb₁ := nanosOfDay_lt hb
  have ht₁ := nanosOfDay_lt ht
  rw [btw_iff, le_iff_nanosOfDay ha ht, le_iff_nanosOfDay ht hb, le_iff_nanosOfDay hb ha]
  -- each of the two distances may or may not go over midnight
  rcases Int.lt_or_le t.nanosOfDay a.nanosOfDay with hta | hat
  · rw [emod_sub_of_gt ha hta]
    rcases Int.lt_or_le b.nanosOfDay a.nanosOfDay with hba | hle
    · rw [emod_sub_of_gt ha hba]
      omega
    · rw [emod_sub_of_le hb hle]
      omega
  · rw [emod_sub_of_le ht hat]
    rcases Int.lt_or_le b.nanosOfDay a.nanosOfDay with hba | hle
    · rw [emod_sub_of_gt ha hba]
      omega
    · rw [emod_sub_of_le hb hle]
      omega

end TimeOfDay

/-! ## Windows -/

namespace TimeWindow

theorem isFullDay_iff {w : TimeWindow} : w.isFullDay = true ↔ w.start = w.finish :=
  decide_eq_true_iff

/-- A window is the arc from its start forwards to its finish. -/
theorem contains_iff_btw (w : TimeWindow) (t : TimeOfDay) :
    w.contains t = true ↔ btw w.start t w.finish := by
  by_cases hfull : w.start = w.finish
  · rw [contains, if_pos (isFullDay_iff.2 hfull), hfull]
    exact iff_of_true rfl (btw_refl_left_right w.finish t)
  · rw [contains, if_neg (mt isFullDay_iff.1 hfull), TimeOfDay.btw_iff]
    rcases lt_or_gt_of_ne hfull with hlt | hgt
    · -- the finish is not before the start, so going forwards does not meet midnight
      rw [if_pos hlt, decide_eq_true_iff]
      constructor
      · exact .inl
      · rintro (hinside | ⟨-, hle⟩ | ⟨hle, -⟩)
        · exact hinside
        · exact absurd hle (not_le.2 hlt)
        · exact absurd hle (not_le.2 hlt)
    · -- a time of the window comes before midnight or after it
      rw [if_neg (not_lt.2 hgt.le), decide_eq_true_iff]
      constructor
      · rintro (hafter | hbefore)
        · exact .inr (.inr ⟨hgt.le, hafter⟩)
        · exact .inr (.inl ⟨hbefore, hgt.le⟩)
      · rintro (⟨hafter, -⟩ | ⟨hbefore, -⟩ | ⟨-, hafter⟩)
        · exact .inl hafter
        · exact .inr hbefore
        · exact .inl hafter

/-- The window between two different times as an arc of the day.  Outside leap seconds a time lies in
it exactly if it is not further ahead of the start than the finish is, counted in nanoseconds modulo
the day.  And with leap seconds too, the window and the one from its finish to its start make up the
whole day, and have nothing but their two ends in common. -/
theorem contains_cyclic {start finish : TimeOfDay} (hne : start ≠ finish) (t : TimeOfDay) :
    (start.isLeap = false → finish.isLeap = false → t.isLeap = false →
      (contains ⟨start, finish⟩ t = true ↔
        (t.nanosOfDay - start.nanosOfDay) % TimeOfDay.nanosPerDay ≤
          (finish.nanosOfDay - start.nanosOfDay) % TimeOfDay.nanosPerDay)) ∧
      (contains ⟨start, finish⟩ t = true ∨ contains ⟨finish, start⟩ t = true) ∧
      (contains ⟨start, finish⟩ t = true ∧ contains ⟨finish, start⟩ t = true ↔
        t = start ∨ t = finish) := by
  simp only [contains_iff_btw]
  refine ⟨?_, btw_total start t finish, ?_⟩
  · intro hstart hfinish ht
    exact TimeOfDay.btw_iff_emod hstart hfinish ht hne
  · constructor
    · rintro ⟨hforth, hback⟩
      rcases hforth.antisymm hback with hs | hf | hsame
      · exact .inl hs.symm
      · exact .inr hf
      · exact absurd hsame.symm hne
    · rintro (rfl | rfl)
      · exact ⟨btw_refl_left t finish, btw_refl_right finish t⟩
      · exact ⟨btw_refl_right start t, btw_refl_left t start⟩

/-- The window from 23:55 to 00:10 has 00:05 in it, ten minutes ahead of its start where the finish is
a quarter of an hour ahead; so that time is not in the window from 00:10 to 23:55. -/
theorem contains_cyclic_of_midnight :
    let start : TimeOfDay := ⟨86100, 0, by decide, by decide⟩
    let finish : TimeOfDay := ⟨600, 0, by decide, by decide⟩
    let t : TimeOfDay := ⟨300, 0, by decide, by decide⟩
    start ≠ finish ∧ contains ⟨start, finish⟩ t = true ∧ ¬contains ⟨finish, start⟩ t = true := by
  intro start finish t
  have hne : start ≠ finish := by decide
  obtain ⟨hcyclic, -, hcommon⟩ := contains_cyclic hne t
  have hinside : contains ⟨start, finish⟩ t = true := (hcyclic rfl rfl rfl).2 (by decide)
  refine ⟨hne, hinside, ?_⟩
  intro hback
  rcases hcommon.1 ⟨hinside, hback⟩ with hstart | hfinish
  · exact absurd hstart (by decide)
  · exact absurd hfinish (by decide)

end TimeWindow

end EntryGate
