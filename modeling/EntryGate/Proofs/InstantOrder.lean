import EntryGate.Time.Instant

/-!
# Order and addition of instants

Outside leap seconds an instant is a number of nanoseconds, its `position`, and adding a span with
the cap adds positions.  Inside a leap second it is not: the sum forgets the second that the leap
second took, so that an instant of `23:59:60` comes to lie before a sum that started from
`23:59:59`.

* `Instant.position_addCapped` is the capped sum as a minimum of integers;
* `Instant.addCapped_le_addCapped` says that a later start outside leap seconds has the later sum.
  The side condition cannot be dropped, and `not_addCapped_mono_of_leap` is the reason.
-/

namespace EntryGate
namespace Instant

/-- Whether an instant lies within a leap second. -/
def isLeap (i : Instant) : Bool :=
  decide (1000000000 ≤ i.nanos)

/-- Nanoseconds since 1970, where no leap second is counted. -/
def position (i : Instant) : Int :=
  i.seconds * 1000000000 + i.nanos

theorem isLeap_iff {i : Instant} : i.isLeap = true ↔ 1000000000 ≤ i.nanos := by
  simp [isLeap]

theorem isLeap_eq_false_iff {i : Instant} : i.isLeap = false ↔ i.nanos < 1000000000 := by
  simp [isLeap]

theorem position_eq (i : Instant) : i.position = i.seconds * 1000000000 + i.nanos := rfl

theorem position_latest : latest.position = maxSeconds * 1000000000 + 999999999 := rfl

/-! ## Order -/

theorem le_iff_rank {i j : Instant} : i ≤ j ↔ i.rank ≤ j.rank := Iff.rfl

theorem lt_iff_rank {i j : Instant} : i < j ↔ i.rank < j.rank := Iff.rfl

theorem not_le {i j : Instant} : ¬i ≤ j ↔ j < i := by
  rw [le_iff_rank, lt_iff_rank]
  omega

theorem le_refl (i : Instant) : i ≤ i :=
  Int.le_refl i.rank

theorem le_trans {i j k : Instant} (hij : i ≤ j) (hjk : j ≤ k) : i ≤ k :=
  Int.le_trans hij hjk

/-- Outside leap seconds the order is that of positions. -/
theorem le_iff_position {i j : Instant} (hi : i.isLeap = false) (hj : j.isLeap = false) :
    i ≤ j ↔ i.position ≤ j.position := by
  rw [isLeap_eq_false_iff] at hi hj
  rw [le_iff_rank, rank, rank, position_eq, position_eq]
  omega

/-- The seconds decide before the nanoseconds do. -/
theorem le_of_seconds_lt {i j : Instant} (h : i.seconds < j.seconds) : i ≤ j := by
  have hi := i.nanos_le
  rw [le_iff_rank, rank, rank]
  omega

/-- What comes after an instant of a leap second and lies outside of one is in a later second. -/
theorem seconds_lt_of_leap {i j : Instant} (hi : i.isLeap = true) (hj : j.isLeap = false)
    (h : i ≤ j) : i.seconds < j.seconds := by
  rw [isLeap_iff] at hi
  rw [isLeap_eq_false_iff] at hj
  rw [le_iff_rank, rank, rank] at h
  omega

/-! ## Addition -/

/-- Where the parts are in range, so is the instant. -/
theorem ofParts?_eq_some {s n : Int} (h₁ : minSeconds ≤ s) (h₂ : s ≤ maxSeconds) (h₃ : 0 ≤ n)
    (h₄ : n < 2000000000) :
    ofParts? s n = some ⟨s, n.toNat, h₁, h₂, by omega⟩ := by
  rw [ofParts?, dif_pos ⟨h₁, h₂, h₃, h₄⟩]

theorem ofParts?_eq_none {s n : Int} (h : maxSeconds < s) : ofParts? s n = none := by
  rw [ofParts?, dif_neg]
  omega

/-- Seconds and nanoseconds add up to an instant outside leap seconds, or to more than there is. -/
theorem normalized?_getD {s n : Int} (h : minSeconds ≤ s) (hn : 0 ≤ n) :
    ((normalized? s n).getD latest).position = min latest.position (s * 1000000000 + n) ∧
      ((normalized? s n).getD latest).isLeap = false := by
  rw [normalized?]
  by_cases hs : s + n / 1000000000 ≤ maxSeconds
  · rw [ofParts?_eq_some (by omega) hs (by omega) (by omega), Option.getD_some,
      isLeap_eq_false_iff, position_latest, position_eq]
    dsimp only
    omega
  · rw [ofParts?_eq_none (by omega), Option.getD_none, position_latest]
    refine ⟨?_, by decide⟩
    omega

/-- Outside leap seconds the capped sum is the least of the last instant and the sum. -/
theorem position_addCapped {i : Instant} {d : Span} (hi : i.isLeap = false) (hd : 0 ≤ d.nanos) :
    (i.addCapped d).position = min latest.position (i.position + d.nanos) ∧
      (i.addCapped d).isLeap = false := by
  rw [isLeap_eq_false_iff] at hi
  have hs := i.le_seconds
  have hsum := normalized?_getD (s := i.seconds + d.nanos.tdiv 1000000000)
    (n := i.nanos + d.nanos.tmod 1000000000)
  rw [Int.tdiv_eq_ediv_of_nonneg hd, Int.tmod_eq_emod_of_nonneg hd] at hsum
  rw [addCapped, add?, if_neg (by omega), Int.tdiv_eq_ediv_of_nonneg hd,
    Int.tmod_eq_emod_of_nonneg hd]
  obtain ⟨hpos, hleap⟩ := hsum (by omega) (by omega)
  refine ⟨?_, hleap⟩
  rw [hpos, position_eq i]
  omega

/-- A sum that starts in a leap second either stays in it or is that of the instant a second
earlier. -/
theorem addCapped_of_leap {i : Instant} {d : Span} (hi : i.isLeap = true) (hd : 0 ≤ d.nanos) :
    (i.addCapped d).seconds = i.seconds ∨
      (i.addCapped d).position = min latest.position (i.position - 1000000000 + d.nanos) ∧
        (i.addCapped d).isLeap = false := by
  rw [isLeap_iff] at hi
  have hs := i.le_seconds
  have hn := i.nanos_le
  rw [addCapped, add?, if_pos hi, Int.tdiv_eq_ediv_of_nonneg hd, Int.tmod_eq_emod_of_nonneg hd]
  by_cases hout : 0 < d.nanos / 1000000000 ∨
      (0 < d.nanos % 1000000000 ∧ (2000000000 : Int) ≤ i.nanos + d.nanos % 1000000000)
  · right
    rw [if_pos hout]
    obtain ⟨hpos, hleap⟩ := normalized?_getD (s := i.seconds + d.nanos / 1000000000)
      (n := i.nanos - 1000000000 + d.nanos % 1000000000) (by omega) (by omega)
    refine ⟨?_, hleap⟩
    rw [hpos, position_eq i]
    omega
  · left
    rw [if_neg hout, if_neg (by omega),
      ofParts?_eq_some i.le_seconds i.seconds_le (by omega) (by omega), Option.getD_some]

/-- Of two instants the later one has the later sum, if it lies outside leap seconds. -/
theorem addCapped_le_addCapped {i j : Instant} {d : Span} (h : i ≤ j) (hj : j.isLeap = false)
    (hd : 0 ≤ d.nanos) : i.addCapped d ≤ j.addCapped d := by
  obtain ⟨hjpos, hjleap⟩ := position_addCapped hj hd
  cases hi : i.isLeap with
  | false =>
    obtain ⟨hipos, hileap⟩ := position_addCapped hi hd
    have hij := (le_iff_position hi hj).1 h
    rw [le_iff_position hileap hjleap, hipos, hjpos]
    omega
  | true =>
    have hlt := seconds_lt_of_leap hi hj h
    have hjs := j.seconds_le
    have hjp := position_eq j
    have hmax := position_latest
    rcases addCapped_of_leap hi hd with hstay | ⟨hipos, hileap⟩
    · -- the sum has not left the leap second, and the other one is in a later second
      have hsum := position_eq (j.addCapped d)
      rw [isLeap_eq_false_iff] at hjleap
      apply le_of_seconds_lt
      omega
    · have hip := position_eq i
      have hin := i.nanos_le
      rw [le_iff_position hileap hjleap, hipos, hjpos]
      omega

/-- At a leap second the order of sums can be the opposite of that of the instants. -/
theorem not_addCapped_mono_of_leap :
    ∃ (i j : Instant) (d : Span), i ≤ j ∧ 0 < d.nanos ∧ j.addCapped d < i.addCapped d :=
  ⟨⟨1483228799, 900000000, by decide, by decide, by decide⟩,
    ⟨1483228799, 1500000000, by decide, by decide, by decide⟩, .ofMinutes 15,
    by decide, by decide, by decide⟩

end Instant
end EntryGate
