import EntryGate.Document.Codec
import EntryGate.Text.Scan

/-!
# Times of day

A time of day is a second of the day and a nanosecond.  A leap second is the last second of its
minute with a nanosecond of one thousand million or more, so it comes after every other instant of
that second, and it is written with the second 60.

Comparison goes by `TimeOfDay.rank`, a natural number that orders seconds first.
-/

namespace EntryGate

open Text

/-- A time of day, possibly within a leap second. -/
structure TimeOfDay where
  seconds : Nat
  nanos : Nat
  seconds_lt : seconds < 86400
  nanos_lt : nanos < 2000000000
deriving DecidableEq

namespace TimeOfDay

instance : Inhabited TimeOfDay := ⟨⟨0, 0, by decide, by decide⟩⟩

/-- The position in the order of times. -/
def rank (t : TimeOfDay) : Nat :=
  t.seconds * 2000000000 + t.nanos

instance : LE TimeOfDay := ⟨fun a b => a.rank ≤ b.rank⟩

instance : LT TimeOfDay := ⟨fun a b => a.rank < b.rank⟩

instance (a b : TimeOfDay) : Decidable (a ≤ b) := inferInstanceAs (Decidable (a.rank ≤ b.rank))

instance (a b : TimeOfDay) : Decidable (a < b) := inferInstanceAs (Decidable (a.rank < b.rank))

theorem rank_injective {a b : TimeOfDay} (h : a.rank = b.rank) : a = b := by
  obtain ⟨s, n, hs, hn⟩ := a
  obtain ⟨s', n', hs', hn'⟩ := b
  simp only [rank] at h
  have : s = s' ∧ n = n' := by omega
  simp [this.1, this.2]

def hour (t : TimeOfDay) : Nat := t.seconds / 3600

def minute (t : TimeOfDay) : Nat := t.seconds / 60 % 60

def second (t : TimeOfDay) : Nat := t.seconds % 60

/-- Whether the time lies within a leap second. -/
def isLeap (t : TimeOfDay) : Bool :=
  decide (1000000000 ≤ t.nanos)

/-- The time with the given fields; the second 60 is the leap second of its minute. -/
def ofFields? (hour minute second nanos : Nat) : Option TimeOfDay :=
  if h : hour ≤ 23 ∧ minute ≤ 59 ∧ second ≤ 60 ∧ nanos < 1000000000 then
    if second = 60 then
      some ⟨hour * 3600 + minute * 60 + 59, nanos + 1000000000, by omega, by omega⟩
    else if hs : second ≤ 59 then
      some ⟨hour * 3600 + minute * 60 + second, nanos, by omega, by omega⟩
    else none
  else none

/-! ## Text -/

/-- A fraction of a second with three, six or nine digits, as many as it needs. -/
def fractionChars (nanos : Nat) : List Char :=
  if nanos = 0 then []
  else if nanos % 1000000 = 0 then '.' :: paddedDigits 3 (nanos / 1000000)
  else if nanos % 1000 = 0 then '.' :: paddedDigits 6 (nanos / 1000)
  else '.' :: paddedDigits 9 nanos

/-- Hours, minutes, seconds and the fraction, with 60 for a leap second. -/
def renderChars (t : TimeOfDay) : List Char :=
  let (second, nanos) :=
    if t.isLeap then (t.second + 1, t.nanos - 1000000000) else (t.second, t.nanos)
  paddedDigits 2 t.hour ++ ':' :: paddedDigits 2 t.minute ++ ':' :: paddedDigits 2 second
    ++ fractionChars nanos

def render (t : TimeOfDay) : String :=
  String.ofList t.renderChars

/-- Hours and minutes, and the seconds unless they are zero. -/
def shortChars (t : TimeOfDay) : List Char :=
  paddedDigits 2 t.hour ++ ':' :: paddedDigits 2 t.minute
    ++ (if t.second = 0 then [] else ':' :: paddedDigits 2 t.second)

/-- Reads a second with an optional fraction, after its colon. -/
def scanSeconds? : Reader (Nat × Nat) := fun cs => do
  let cs ← spacedChar? ':' cs
  let (second, cs) ← field? 2 cs
  let (nanos, cs) ← fraction? cs
  return ((second, nanos), trimLeft cs)

/-- A time that stands alone: hour and minute, and optionally seconds with a fraction. -/
def parse? (s : String) : Option TimeOfDay := do
  let (hour, cs) ← field? 2 s.toList
  let cs ← spacedChar? ':' cs
  let (minute, cs) ← field? 2 cs
  match scanSeconds? cs with
  | some ((second, nanos), []) => ofFields? hour minute second nanos
  | _ => if (trimLeft cs).isEmpty then ofFields? hour minute 0 0 else none

instance : Codec TimeOfDay where
  encode t := .text t.render
  decode
    | _, .text s => parse? s
    | _, _ => none

end TimeOfDay

end EntryGate
