import EntryGate.Document.Codec
import EntryGate.Document.Json
import EntryGate.Table
import EntryGate.Text.Case
import EntryGate.Time.Date

/-!
# Exchange calendars

A calendar knows, for an instrument and a date, the settlement window and the blackout windows of
that day, as texts.  Calendars are exchanged as documents: sections by symbol, each with records by
date.  Symbols are filed under their keys, a later record of the same day replaces an earlier one,
and a record whose date cannot be read has no effect.

* `CalendarDocument` is the exchanged form;
* `DayTable` is a calendar held in memory, and `DayTable.ofDocument` files a document;
* `CalendarProvider` is any source of days.
-/

namespace EntryGate

open Text

/-- The windows of one day, as texts. -/
structure CalendarDay where
  settlement : Option String
  blackouts : List String
deriving DecidableEq, Repr

namespace CalendarDay

/-- The members of a day, which a dated record has as well. -/
def members (d : CalendarDay) : List (String × Document) :=
  [("settlement", encode d.settlement), ("blackouts", encode d.blackouts)]

def ofMembers? (format : Format) (m : Members) : Option CalendarDay := do
  let settlement ← m.defaulted? "settlement" (decode format) none
  let blackouts ← m.defaulted? "blackouts" (decode format) []
  return ⟨settlement, blackouts⟩

instance : Codec CalendarDay where
  encode d := .record d.members
  decode format d :=
    (Members.ofDocument? format ["settlement", "blackouts"] d).bind (ofMembers? format)

end CalendarDay

/-- A day of a calendar with the text of its date. -/
structure DayRecord where
  date : String
  day : CalendarDay
deriving DecidableEq, Repr

namespace DayRecord

/-- A record has the members of its day besides the date, and is never given as a list.  Its unknown
members are not used, but they have to be representable. -/
instance : Codec DayRecord where
  encode r := .record (("date", encode r.date) :: r.day.members)
  decode
    | format, .record ms => do
      if !Document.membersRepresentable ms then none
      let m ← Members.ofDocument? format ["date", "settlement", "blackouts"] (.record ms)
      let date ← m.required? "date" (decode format)
      let day ← CalendarDay.ofMembers? format m
      return ⟨date, day⟩
    | _, _ => none

end DayRecord

/-- The days of one instrument. -/
structure SymbolCalendar where
  symbol : String
  days : List DayRecord
deriving DecidableEq, Repr

namespace SymbolCalendar

instance : Codec SymbolCalendar where
  encode s := .record [("symbol", encode s.symbol), ("days", encode s.days)]
  decode format d := do
    let m ← Members.ofDocument? format ["symbol", "days"] d
    let symbol ← m.required? "symbol" (decode format)
    let days ← m.defaulted? "days" (decode format) []
    return ⟨symbol, days⟩

end SymbolCalendar

/-- A calendar as it is exchanged. -/
structure CalendarDocument where
  symbols : List SymbolCalendar
deriving DecidableEq, Repr

namespace CalendarDocument

instance : Codec CalendarDocument where
  encode c := .record [("symbols", encode c.symbols)]
  decode format d := do
    let m ← Members.ofDocument? format ["symbols"] d
    let symbols ← m.defaulted? "symbols" (decode format) []
    return ⟨symbols⟩

end CalendarDocument

/-- A source of calendar days. -/
abbrev CalendarProvider := String → Date → Option CalendarDay

namespace CalendarProvider

/-- The calendar without any day. -/
def none : CalendarProvider := fun _ _ => Option.none

end CalendarProvider

/-- Days filed by symbol key and date. -/
structure DayTable where
  sections : Table String (Table Date CalendarDay)

namespace DayTable

def empty : DayTable := ⟨.empty⟩

/-- Adds a day, in place of one for the same key and date. -/
def insert (t : DayTable) (symbol : String) (date : Date) (day : CalendarDay) : DayTable :=
  let key := symbolKey symbol
  ⟨t.sections.put key (((t.sections.get? key).getD .empty).put date day)⟩

/-- The day of a symbol on a date. -/
def load? (t : DayTable) : CalendarProvider := fun symbol date =>
  (t.sections.get? (symbolKey symbol)).bind fun days => days.get? date

/-- The number of keys with at least one day. -/
def symbolCount (t : DayTable) : Nat :=
  t.sections.size

/-- Adds the days of a section whose dates can be read. -/
def insertSection (t : DayTable) (s : SymbolCalendar) : DayTable :=
  s.days.foldl
    (fun t r =>
      match Date.parseRecord? r.date with
      | some date => t.insert s.symbol date r.day
      | none => t)
    t

/-- Files a whole document, in the order of its sections and records. -/
def ofDocument (c : CalendarDocument) : DayTable :=
  c.symbols.foldl insertSection empty

/-- Reads and files the text of a calendar. -/
def parse? (text : String) : Option DayTable := do
  let d ← Json.parse? text
  let c : CalendarDocument ← decode .json d
  return ofDocument c

end DayTable

end EntryGate
