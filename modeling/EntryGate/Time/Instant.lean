import EntryGate.Time.LocalDateTime

/-!
# Instants and spans

An instant is a second of universal time, counted from 1970, and a nanosecond, which as in a time of
day is one thousand million or more within a leap second.  A span is a signed number of nanoseconds.

* `Instant.add?` moves an instant by a span, within the supported years;
* `Instant.addCapped` stops at the last instant instead.

Moving away from a leap second forgets that it was one; moving within it or back into the second
before by less than a second does not.
-/

namespace EntryGate

open Text

/-- A length of time in nanoseconds. -/
structure Span where
  nanos : Int
deriving DecidableEq, Repr

namespace Span

def ofMillis (n : Int) : Span := ⟨n * 1000000⟩

def ofMinutes (n : Int) : Span := ⟨n * 60000000000⟩

/-- The most milliseconds that a span may have, in either direction. -/
def maxMillis : Int := 9223372036854775807

/-- The span of that many minutes, unless it would be too long. -/
def ofMinutes? (n : Int) : Option Span :=
  if -maxMillis ≤ n * 60000 ∧ n * 60000 ≤ maxMillis then some (ofMinutes n) else none

def toMillis (s : Span) : Int := s.nanos.tdiv 1000000

instance : LE Span := ⟨fun a b => a.nanos ≤ b.nanos⟩

instance : LT Span := ⟨fun a b => a.nanos < b.nanos⟩

instance (a b : Span) : Decidable (a ≤ b) := inferInstanceAs (Decidable (a.nanos ≤ b.nanos))

instance (a b : Span) : Decidable (a < b) := inferInstanceAs (Decidable (a.nanos < b.nanos))

/-- Seconds and the nanoseconds above them, in words for a log. -/
def describe (s : Span) : String :=
  "TimeDelta \x7b secs: " ++ integerText (s.nanos / 1000000000)
    ++ ", nanos: " ++ integerText (s.nanos % 1000000000) ++ " \x7d"

end Span

namespace Instant

/-- The first second of the supported years. -/
def minSeconds : Int := -8334601228800

/-- The last second of the supported years. -/
def maxSeconds : Int := 8210266876799

end Instant

/-- A point in time within the supported years. -/
structure Instant where
  seconds : Int
  nanos : Nat
  le_seconds : Instant.minSeconds ≤ seconds
  seconds_le : seconds ≤ Instant.maxSeconds
  nanos_le : nanos ≤ 1999999999
deriving DecidableEq

namespace Instant

/-- The position in the order of instants. -/
def rank (i : Instant) : Int :=
  i.seconds * 2000000000 + i.nanos

instance : LE Instant := ⟨fun a b => a.rank ≤ b.rank⟩

instance : LT Instant := ⟨fun a b => a.rank < b.rank⟩

instance (a b : Instant) : Decidable (a ≤ b) := inferInstanceAs (Decidable (a.rank ≤ b.rank))

instance (a b : Instant) : Decidable (a < b) := inferInstanceAs (Decidable (a.rank < b.rank))

/-- The last instant. -/
def latest : Instant := ⟨maxSeconds, 999999999, by decide, by decide, by decide⟩

/-- The instant with the given second and nanosecond, if it is supported. -/
def ofParts? (seconds nanos : Int) : Option Instant :=
  if h : minSeconds ≤ seconds ∧ seconds ≤ maxSeconds ∧ 0 ≤ nanos ∧ nanos < 2000000000 then
    some ⟨seconds, nanos.toNat, h.1, h.2.1, by omega⟩
  else none

/-- The instant of a clock that counts nanoseconds since 1970, or the last instant if it has none. -/
def ofNanos (n : Int) : Instant :=
  (ofParts? (n / 1000000000) (n % 1000000000)).getD latest

/-- The sum of seconds and nanoseconds with the nanoseconds brought below one second. -/
def normalized? (seconds nanos : Int) : Option Instant :=
  ofParts? (seconds + nanos / 1000000000) (nanos % 1000000000)

/-- The instant after a span, if it is supported. -/
def add? (i : Instant) (d : Span) : Option Instant :=
  let seconds := d.nanos.tdiv 1000000000
  let nanos := d.nanos.tmod 1000000000
  if 1000000000 ≤ i.nanos then
    -- from within a leap second, which lasts until the nanoseconds reach two seconds
    if 0 < seconds ∨ (0 < nanos ∧ 2000000000 ≤ i.nanos + nanos) then
      normalized? (i.seconds + seconds) (i.nanos - 1000000000 + nanos)
    else if seconds < 0 then
      -- going back, the leap second itself is passed through
      normalized? (i.seconds + 1 + seconds) (i.nanos - 1000000000 + nanos)
    else ofParts? i.seconds (i.nanos + nanos)
  else normalized? (i.seconds + seconds) (i.nanos + nanos)

/-- The instant after a span, or the last instant if that is beyond it. -/
def addCapped (i : Instant) (d : Span) : Instant :=
  (i.add? d).getD latest

/-! ## Text -/

/-- The date and time at a distance of `offset` seconds from universal time. -/
def toLocal (i : Instant) (offset : Int) : LocalDateTime :=
  let n := i.seconds + offset
  ⟨Date.ofDayNumber (n.fdiv 86400),
    ⟨(n % 86400).toNat, i.nanos, by omega, by have h := i.nanos_le; omega⟩⟩

/-- The instant in universal time. -/
def render (i : Instant) : String :=
  (i.toLocal 0).render ++ "Z"

/-- The distance from universal time, in seconds. -/
def scanOffset? : Reader Int := fun cs =>
  let hoursAndMinutes (sign : Int) (cs : List Char) : Option (Int × List Char) := do
    let (hours, cs) ← fixedNumber? 2 cs
    let cs ← char? ':' cs
    let (minutes, cs) ← fixedNumber? 2 cs
    if hours ≤ 23 ∧ minutes ≤ 59 then
      return (sign * (hours * 3600 + minutes * 60 : Nat), cs)
    else none
  match cs with
  | 'Z' :: rest => some (0, rest)
  | 'z' :: rest => some (0, rest)
  | '+' :: rest => hoursAndMinutes 1 rest
  | '-' :: rest => hoursAndMinutes (-1) rest
  | '\u2212' :: rest => hoursAndMinutes (-1) rest
  | _ => none

/-- The mark between date and time. -/
def scanMark? : List Char → Option (List Char)
  | c :: rest => if c = 'T' ∨ c = 't' ∨ c = ' ' then some rest else none
  | [] => none

/-- Reads a timestamp: full date, full time, an optional fraction, and the zone. -/
def parse? (s : String) : Option Instant := do
  let (year, cs) ← fixedNumber? 4 s.toList
  let cs ← char? '-' cs
  let (month, cs) ← fixedNumber? 2 cs
  let cs ← char? '-' cs
  let (day, cs) ← fixedNumber? 2 cs
  let cs ← scanMark? cs
  let (hour, cs) ← fixedNumber? 2 cs
  let cs ← char? ':' cs
  let (minute, cs) ← fixedNumber? 2 cs
  let cs ← char? ':' cs
  let (second, cs) ← fixedNumber? 2 cs
  let (nanos, cs) ← fraction? cs
  let (offset, cs) ← scanOffset? cs
  let date ← Date.ofYMD? year month day
  let time ← TimeOfDay.ofFields? hour minute second nanos
  if cs.isEmpty then ofParts? (date.dayNumber * 86400 + time.seconds - offset) time.nanos
  else none

end Instant

end EntryGate
