import EntryGate.Fault
import EntryGate.Time.History
import EntryGate.Time.Instant

/-!
# Time zones

A zone has the history of its clock, and from the end of that history on a distance from universal
time and a rule for daylight saving.  The rules are laid down up to the year 2099, and what is in
force at its end stays so.

Which zones there are is not settled here.  A `ZoneTable` finds them by name, and whatever needs a
zone is given one.

* `ZoneTable.exchanges` is the table of zones in which some exchanges keep their clocks, by exact
  name;
* `Zone.offsetAt` is the distance from universal time at an instant;
* `Zone.toLocal` shows an instant on the zone's clock, if the date there is supported.
-/

namespace EntryGate

/-- When a zone's clock is one hour ahead of its standard time. -/
inductive DaylightRule where
  | none
  /-- From the second Sunday of March to the first Sunday of November, at two o'clock. -/
  | northAmerican
  /-- From the last Sunday of March to the last Sunday of October, at one o'clock universal time. -/
  | european
  /-- From the first Sunday of October to the first Sunday of April, at two o'clock standard time. -/
  | australian
deriving DecidableEq, Repr

namespace DaylightRule

/-- The last year for which the rules are laid down. -/
def lastYear : Int := 2099

/-- The first Sunday on or after a day of a year, in seconds. -/
def sunday (year : Int) (month day : Nat) : Int :=
  Date.sundayFrom (Date.dayNumber ⟨year, month, day⟩) * 86400

/-- Whether daylight saving is in force at a second of universal time, in a zone whose standard
time is `standard` seconds ahead. -/
def inForce (rule : DaylightRule) (standard seconds : Int) : Bool :=
  let clock := seconds + standard
  let year := min (Date.ofDayNumber (clock.fdiv 86400)).year lastYear
  match rule with
  | .none => false
  | .northAmerican =>
    -- the clock shows daylight time in autumn, so standard time has reached one o'clock only
    decide (sunday year 3 8 + 7200 ≤ clock ∧ clock < sunday year 11 1 + 3600)
  | .european =>
    -- all of Europe changes at the same moment of universal time
    decide (sunday year 3 25 + 3600 ≤ seconds ∧ seconds < sunday year 10 25 + 3600)
  | .australian =>
    -- the summer spans the turn of the year
    decide (sunday year 10 1 + 7200 ≤ clock ∨ clock < sunday year 4 1 + 7200)

end DaylightRule

/-- A time zone. -/
structure Zone where
  name : String
  history : History
  /-- Seconds that standard time is ahead of universal time. -/
  standard : Int
  rule : DaylightRule
deriving DecidableEq, Repr

namespace Zone

def newYork : Zone := ⟨"America/New_York", .newYork, -18000, .northAmerican⟩

/-- The zones of some exchanges. -/
def exchanges : List Zone :=
  [ newYork,
    ⟨"US/Eastern", .newYork, -18000, .northAmerican⟩,
    ⟨"America/Chicago", .chicago, -21600, .northAmerican⟩,
    ⟨"US/Central", .chicago, -21600, .northAmerican⟩,
    ⟨"America/Los_Angeles", .losAngeles, -28800, .northAmerican⟩,
    ⟨"Europe/London", .london, 0, .european⟩,
    ⟨"Europe/Berlin", .berlin, 3600, .european⟩,
    ⟨"Australia/Sydney", .sydney, 36000, .australian⟩,
    ⟨"Asia/Tokyo", .tokyo, 32400, .none⟩,
    ⟨"Asia/Kolkata", .kolkata, 19800, .none⟩,
    ⟨"Asia/Hong_Kong", .hongKong, 28800, .none⟩,
    ⟨"UTC", .constant 0, 0, .none⟩,
    ⟨"GMT", .constant 0, 0, .none⟩,
    ⟨"Etc/GMT+5", .constant (-18000), -18000, .none⟩ ]

/-- Seconds that the zone's clock is ahead of universal time at an instant. -/
def offsetAt (z : Zone) (i : Instant) : Int :=
  if i.seconds < z.history.finish then z.history.offsetAt i.seconds
  else if z.rule.inForce z.standard i.seconds then z.standard + 3600
  else z.standard

/-- The instant on the zone's clock. -/
def toLocal (z : Zone) (i : Instant) : Except Fault LocalDateTime :=
  let t := i.toLocal (z.offsetAt i)
  if t.date.isSupported then .ok t else .error .localTimeOverflow

end Zone

/-- A table of zones by name. -/
abbrev ZoneTable := String → Option Zone

namespace ZoneTable

/-- The zones of some exchanges, under the names that they have there. -/
def exchanges : ZoneTable := fun name =>
  Zone.exchanges.find? fun z => z.name == name

end ZoneTable

end EntryGate
