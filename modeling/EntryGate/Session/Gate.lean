import EntryGate.Session.Calendar
import EntryGate.Session.Window
import EntryGate.Time.Zone

/-!
# Session gate

Keeps entries out of settlement and blackout windows.  The settlement window is looked at first and
then the blackout windows in their order; window texts that are blank or cannot be read do not
count, and a blank symbol has no windows at all.

* `SessionGate.blocking?` finds the window that keeps an entry out;
* `SessionGate.isSettlement` and `SessionGate.isBlackout` ask for one kind of window only.
-/

namespace EntryGate

open Text

/-- The window that keeps an entry out. -/
inductive SessionBlock where
  | settlement (window : TimeWindow)
  | blackout (window : TimeWindow)
deriving DecidableEq

namespace SessionBlock

def window : SessionBlock → TimeWindow
  | .settlement w => w
  | .blackout w => w

def label : SessionBlock → String
  | .settlement _ => "settlement"
  | .blackout _ => "blackout"

/-- The kind of window and the window. -/
def render (b : SessionBlock) : String :=
  b.label ++ " " ++ b.window.render

def encode (b : SessionBlock) : Document :=
  .record [("kind", .text b.label), ("window", Codec.encode b.window)]

end SessionBlock

/-- A calendar and the zone of its times. -/
structure SessionGate where
  calendar : CalendarProvider
  zone : Zone

namespace SessionGate

/-- A gate for a calendar in the zone of New York. -/
def ofCalendar (calendar : CalendarProvider) : SessionGate := ⟨calendar, Zone.newYork⟩

/-- The window with that text, unless the text is blank or cannot be read. -/
def window? (text : String) : Option TimeWindow :=
  if (trim text).isEmpty then none
  else
    match TimeWindow.parse text with
    | .ok w => some w
    | .error _ => none

/-- The calendar day of a symbol. -/
def day? (g : SessionGate) (symbol : String) (date : Date) : Option CalendarDay :=
  if (trim symbol).isEmpty then none else g.calendar symbol date

/-- The blackout windows of a day, in order. -/
def blackouts (g : SessionGate) (symbol : String) (date : Date) : List TimeWindow :=
  match g.day? symbol date with
  | some day => day.blackouts.filterMap window?
  | none => []

/-- The settlement window of a day. -/
def settlement? (g : SessionGate) (symbol : String) (date : Date) : Option TimeWindow :=
  (g.day? symbol date).bind fun day => day.settlement.bind window?

/-- Whether the time lies in a blackout window. -/
def isBlackout (g : SessionGate) (symbol : String) (moment : LocalDateTime) : Bool :=
  (g.blackouts symbol moment.date).any fun w => w.contains moment.time

/-- Whether the time lies in the settlement window. -/
def isSettlement (g : SessionGate) (symbol : String) (moment : LocalDateTime) : Bool :=
  match g.settlement? symbol moment.date with
  | some w => w.contains moment.time
  | none => false

/-- The first blackout window of a day that contains the time. -/
def blackoutAt? (day : CalendarDay) (time : TimeOfDay) : Option SessionBlock :=
  ((day.blackouts.filterMap window?).find? fun w => w.contains time).map .blackout

/-- The window that keeps an entry out: the settlement window, or the first blackout window, that
contains the time. -/
def blocking? (g : SessionGate) (symbol : String) (moment : LocalDateTime) :
    Option SessionBlock :=
  match g.day? symbol moment.date with
  | none => none
  | some day =>
    match day.settlement.bind window? with
    | some w =>
      if w.contains moment.time then some (.settlement w) else blackoutAt? day moment.time
    | none => blackoutAt? day moment.time

/-- The zone, in words for a log. -/
def describe (g : SessionGate) : String :=
  "SessionGate \x7b timezone: " ++ g.zone.name ++ ", .. \x7d"

end SessionGate

end EntryGate
