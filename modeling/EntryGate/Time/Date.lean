import EntryGate.Text.Scan

/-!
# Calendar dates

Dates of the proleptic Gregorian calendar.  A date is written with a four-digit year, or with a
signed one outside the years 0 to 9999.

* `Date.ofYMD?` admits the days that exist in the supported years;
* `Date.dayNumber` and `Date.ofDayNumber` count days from 1970-01-01;
* `Date.scan?` and `Date.scanSpaced?` read dates, the second one allowing blanks before the dashes.
-/

namespace EntryGate

open Text

/-- A day of the calendar. -/
structure Date where
  year : Int
  month : Nat
  day : Nat
deriving DecidableEq, Repr

namespace Date

def isLeapYear (year : Int) : Bool :=
  year % 4 == 0 && (year % 100 != 0 || year % 400 == 0)

def daysInMonth (year : Int) (month : Nat) : Nat :=
  if month = 2 then (if isLeapYear year then 29 else 28)
  else if month = 4 ∨ month = 6 ∨ month = 9 ∨ month = 11 then 30
  else 31

def minYear : Int := -262143

def maxYear : Int := 262142

/-- The date with the given year, month and day, if there is one. -/
def ofYMD? (year : Int) (month day : Nat) : Option Date :=
  if minYear ≤ year ∧ year ≤ maxYear ∧ 1 ≤ month ∧ month ≤ 12 ∧ 1 ≤ day
      ∧ day ≤ daysInMonth year month then
    some ⟨year, month, day⟩
  else none

/-- Whether the date lies in the supported years. -/
def isSupported (d : Date) : Bool :=
  decide (minYear ≤ d.year ∧ d.year ≤ maxYear)

/-! ## Day numbers -/

/-- Days since 1970-01-01.  Years are counted from March, so that a leap day ends its year. -/
def dayNumber (d : Date) : Int :=
  let y := if d.month ≤ 2 then d.year - 1 else d.year
  let era := y.fdiv 400
  let yearOfEra := y - era * 400
  let monthFromMarch : Int := ((d.month + 9) % 12 : Nat)
  let dayOfYear := (153 * monthFromMarch + 2) / 5 + d.day - 1
  let dayOfEra := yearOfEra * 365 + yearOfEra / 4 - yearOfEra / 100 + dayOfYear
  era * 146097 + dayOfEra - 719468

/-- The date that is the given number of days after 1970-01-01. -/
def ofDayNumber (n : Int) : Date :=
  let z := n + 719468
  let era := z.fdiv 146097
  let dayOfEra := z - era * 146097
  let yearOfEra :=
    (dayOfEra - dayOfEra / 1460 + dayOfEra / 36524 - dayOfEra / 146096) / 365
  let dayOfYear := dayOfEra - (365 * yearOfEra + yearOfEra / 4 - yearOfEra / 100)
  let monthFromMarch := (5 * dayOfYear + 2) / 153
  let day := dayOfYear - (153 * monthFromMarch + 2) / 5 + 1
  let month := if monthFromMarch < 10 then monthFromMarch + 3 else monthFromMarch - 9
  let year := yearOfEra + era * 400 + (if month ≤ 2 then 1 else 0)
  ⟨year, month.toNat, day.toNat⟩

/-- The first Sunday on or after the day with the given number. -/
def sundayFrom (n : Int) : Int :=
  n + (-(n + 4)) % 7

/-! ## Text -/

/-- A year with at least four digits, and with a sign outside the years 0 to 9999. -/
def yearChars (year : Int) : List Char :=
  if 0 ≤ year ∧ year ≤ 9999 then paddedDigits 4 year.natAbs
  else (if year < 0 then '-' else '+') :: paddedDigits 4 year.natAbs

def renderChars (d : Date) : List Char :=
  yearChars d.year ++ '-' :: paddedDigits 2 d.month ++ '-' :: paddedDigits 2 d.day

def render (d : Date) : String :=
  String.ofList d.renderChars

/-- A year: up to four digits, or a sign and any number of digits. -/
def scanYear? : Reader Int := fun cs =>
  match trimLeft cs with
  | '-' :: rest => (number? rest.length rest).map fun (n, rest) => (-(n : Int), rest)
  | '+' :: rest => (number? rest.length rest).map fun (n, rest) => ((n : Int), rest)
  | cs => (number? 4 cs).map fun (n, rest) => ((n : Int), rest)

/-- Reads year, month and day, with the given reader for the dashes between them. -/
def scanWith? (dash : List Char → Option (List Char)) : Reader Date := fun cs => do
  let (year, cs) ← scanYear? cs
  let cs ← dash cs
  let (month, cs) ← field? 2 cs
  let cs ← dash cs
  let (day, cs) ← field? 2 cs
  let d ← ofYMD? year month day
  return (d, cs)

/-- A date whose dashes directly follow the numbers. -/
def scan? : Reader Date :=
  scanWith? (char? '-')

/-- A date with optional blanks before the dashes. -/
def scanSpaced? : Reader Date :=
  scanWith? (spacedChar? '-')

/-- The date of a calendar record: blanks around it do not count. -/
def parseRecord? (s : String) : Option Date :=
  match scan? (trimChars s.toList) with
  | some (d, []) => some d
  | _ => none

/-- A date that stands alone. -/
def parse? (s : String) : Option Date :=
  match scanSpaced? s.toList with
  | some (d, rest) => if (trimLeft rest).isEmpty then some d else none
  | none => none

end Date

end EntryGate
