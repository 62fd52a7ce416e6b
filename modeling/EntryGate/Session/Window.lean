import EntryGate.Text.Quoted
import EntryGate.Time.TimeOfDay

/-!
# Time windows

A window is a stretch of the day between two times, both included.  A window whose start is after
its end runs over midnight, and one whose start is its end is the whole day.

The text of a window is two times with a dash between them.  A time is an hour and a minute, or an
hour, a minute and a second, with colons directly after the numbers before them; blanks are allowed
before each number and around each time.

* `TimeWindow.contains` decides whether a time lies in a window;
* `TimeWindow.parse` reads a window and says what is wrong with a text that is none;
* `TimeWindow.render` writes a window, without seconds where they are zero.
-/

namespace EntryGate

open Text

/-- A stretch of the day. -/
structure TimeWindow where
  start : TimeOfDay
  finish : TimeOfDay
deriving DecidableEq

/-- What is wrong with the text of a window. -/
inductive WindowError where
  /-- The text is not two parts with a dash between them. -/
  | shape (text : String)
  /-- A part is not a time of day. -/
  | time (part : String)
deriving DecidableEq, Repr

namespace WindowError

def message : WindowError → String
  | .shape text => "window " ++ quoted text ++ " is not of the form HH:mm-HH:mm"
  | .time part => "invalid time of day " ++ quoted part

end WindowError

namespace TimeWindow

/-- The window between two times given by hour and minute. -/
def ofHourMinute? (startHour startMinute finishHour finishMinute : Nat) : Option TimeWindow := do
  let start ← TimeOfDay.ofFields? startHour startMinute 0 0
  let finish ← TimeOfDay.ofFields? finishHour finishMinute 0 0
  return ⟨start, finish⟩

def wrapsMidnight (w : TimeWindow) : Bool :=
  decide (w.finish < w.start)

def isFullDay (w : TimeWindow) : Bool :=
  decide (w.start = w.finish)

/-- Whether a time lies in the window. -/
def contains (w : TimeWindow) (t : TimeOfDay) : Bool :=
  if w.isFullDay then true
  else if w.start < w.finish then decide (w.start ≤ t ∧ t ≤ w.finish)
  else decide (w.start ≤ t ∨ t ≤ w.finish)

/-! ## Text -/

/-- Reads hour and minute and nothing else. -/
def hourMinute? (cs : List Char) : Option TimeOfDay := do
  let (hour, cs) ← field? 2 cs
  let cs ← char? ':' cs
  let (minute, cs) ← field? 2 cs
  if cs.isEmpty then TimeOfDay.ofFields? hour minute 0 0 else none

/-- Reads hour, minute and second and nothing else. -/
def hourMinuteSecond? (cs : List Char) : Option TimeOfDay := do
  let (hour, cs) ← field? 2 cs
  let cs ← char? ':' cs
  let (minute, cs) ← field? 2 cs
  let cs ← char? ':' cs
  let (second, cs) ← field? 2 cs
  if cs.isEmpty then TimeOfDay.ofFields? hour minute second 0 else none

/-- Reads one end of a window. -/
def parseTime (part : List Char) : Except WindowError TimeOfDay :=
  let cs := trimChars part
  match hourMinute? cs <|> hourMinuteSecond? cs with
  | some t => .ok t
  | none => .error (.time (String.ofList cs))

/-- The parts before and after the only dash, if there is exactly one. -/
def halves? (cs : List Char) : Option (List Char × List Char) :=
  match cs.dropWhile (fun c => c != '-') with
  | [] => none
  | _ :: after => if after.contains '-' then none else some (cs.takeWhile (fun c => c != '-'), after)

/-- Reads the text of a window; the start is read first. -/
def parse (text : String) : Except WindowError TimeWindow :=
  match halves? (trimChars text.toList) with
  | none => .error (.shape text)
  | some (before, after) => do
    let start ← parseTime before
    let finish ← parseTime after
    return ⟨start, finish⟩

/-- The two times with a dash between them. -/
def render (w : TimeWindow) : String :=
  String.ofList (w.start.shortChars ++ '-' :: w.finish.shortChars)

instance : Codec TimeWindow where
  encode w := .record [("start", encode w.start), ("end", encode w.finish)]
  decode format d := do
    let m ← Members.ofDocument? format ["start", "end"] d
    let start ← m.required? "start" (decode format)
    let finish ← m.required? "end" (decode format)
    return ⟨start, finish⟩

end TimeWindow

end EntryGate
