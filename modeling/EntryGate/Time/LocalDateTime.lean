import EntryGate.Time.Date
import EntryGate.Time.TimeOfDay

/-!
# Local date-times

A date and a time of day on the exchange's own clock, without a zone.
-/

namespace EntryGate

open Text

/-- A date and a time of day. -/
structure LocalDateTime where
  date : Date
  time : TimeOfDay
deriving DecidableEq

namespace LocalDateTime

/-- Date and time with the given character between them. -/
def renderWith (separator : Char) (t : LocalDateTime) : String :=
  String.ofList (t.date.renderChars ++ separator :: t.time.renderChars)

/-- The form in which date-times are exchanged. -/
def render : LocalDateTime → String :=
  renderWith 'T'

/-- The form in which date-times stand in messages. -/
def renderSpaced : LocalDateTime → String :=
  renderWith ' '

/-- Reads a date, the letter T and a time with seconds.  Blanks may precede every number and every
mark, and may follow at the end. -/
def parse? (s : String) : Option LocalDateTime := do
  let (date, cs) ← Date.scanSpaced? s.toList
  let cs ← spacedChar? 'T' cs
  let (hour, cs) ← field? 2 cs
  let cs ← spacedChar? ':' cs
  let (minute, cs) ← field? 2 cs
  match TimeOfDay.scanSeconds? cs with
  | some ((second, nanos), []) =>
    let time ← TimeOfDay.ofFields? hour minute second nanos
    return ⟨date, time⟩
  | _ => none

/-- Reads hour and minute, and the second if `seconds` asks for it, up to the end of the text. -/
def clockTime? (seconds : Bool) (cs : List Char) : Option TimeOfDay := do
  let (hour, cs) ← field? 2 cs
  let cs ← char? ':' cs
  let (minute, cs) ← field? 2 cs
  if seconds then
    let cs ← char? ':' cs
    match ← field? 2 cs with
    | (second, []) => TimeOfDay.ofFields? hour minute second 0
    | _ => none
  else if cs.isEmpty then TimeOfDay.ofFields? hour minute 0 0
  else none

/-- Reads a date-time as people type it: a date, blanks or the letter T, and a time with or without
seconds. -/
def parseTyped? (s : String) : Option LocalDateTime := do
  let (date, cs) ← Date.scan? s.toList
  let spaced := trimLeft cs
  let time ←
    clockTime? false spaced <|> clockTime? true spaced
      <|> (char? 'T' cs).bind (clockTime? false) <|> (char? 'T' cs).bind (clockTime? true)
  return ⟨date, time⟩

instance : Codec LocalDateTime where
  encode t := .text t.render
  decode
    | _, .text s => parse? s
    | _, _ => none

end LocalDateTime

end EntryGate
