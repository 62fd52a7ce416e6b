import EntryGate.Document.Codec
import EntryGate.Fault
import EntryGate.Text.Case

/-!
# Diagnostic events

Decisions leave events behind, each with a tag and a message.  A log keeps the most recent events up
to its capacity, oldest first.  A filter in front of a log lets through the tags of its allowlist, in
any case, or everything if the allowlist is empty.

* `EventLog.create` makes a log, if memory can have room for it;
* `EventLog.capture` adds an event;
* `TagFilter.admits` decides whether an event reaches the log.
-/

namespace EntryGate

open Text

/-- What happened, with a tag by which events are filtered. -/
structure DiagnosticEvent where
  tag : String
  message : String
deriving DecidableEq, Repr

namespace DiagnosticEvent

instance : Codec DiagnosticEvent where
  encode e := .record [("tag", encode e.tag), ("message", encode e.message)]
  decode format d := do
    let m ← Members.ofDocument? format ["tag", "message"] d
    let tag ← m.required? "tag" (decode format)
    let message ← m.required? "message" (decode format)
    return ⟨tag, message⟩

end DiagnosticEvent

/-- The most recent events. -/
structure EventLog where
  capacity : Nat
  enabled : Bool
  /-- Oldest first. -/
  events : List DiagnosticEvent
deriving DecidableEq, Repr

namespace EventLog

def defaultCapacity : Nat := 256

/-- An empty log with room for at least one event. -/
def new (capacity : Nat) : EventLog := ⟨max capacity 1, true, []⟩

/-- The most events that a log can have room for: an event takes 48 bytes, and all of them together
at most `2 ^ 63 - 1`. -/
def maxCapacity : Nat := 9223372036854775807 / 48

/-- An empty log with its room set aside. -/
def create (capacity : Nat) : Except Fault EventLog :=
  if maxCapacity < capacity then .error .capacityOverflow else .ok (new capacity)

/-- Adds an event, giving up the oldest one if the log is full.  A disabled log stays as it is. -/
def capture (l : EventLog) (e : DiagnosticEvent) : EventLog :=
  if !l.enabled then l
  else if l.events.length = l.capacity then { l with events := l.events.tail ++ [e] }
  else { l with events := l.events ++ [e] }

def setEnabled (l : EventLog) (enabled : Bool) : EventLog :=
  { l with enabled := enabled }

def clear (l : EventLog) : EventLog :=
  { l with events := [] }

end EventLog

/-- The tags that are let through, in lower case; none at all means every tag. -/
structure TagFilter where
  allowed : List String
deriving DecidableEq, Repr

namespace TagFilter

/-- The filter for a list of tags as they are configured: trimmed, in lower case, blanks dropped. -/
def ofTags (tags : List String) : TagFilter :=
  ⟨(tags.map fun t => lower (trim t)).filter fun t => !t.isEmpty⟩

/-- Whether events with that tag are let through. -/
def admits (f : TagFilter) (tag : String) : Bool :=
  f.allowed.isEmpty || f.allowed.contains (lower tag)

end TagFilter

/-- A log with a filter in front of it. -/
structure FilteredLog where
  filter : TagFilter
  log : EventLog
deriving DecidableEq, Repr

namespace FilteredLog

/-- Adds an event that the filter lets through. -/
def capture (l : FilteredLog) (e : DiagnosticEvent) : FilteredLog :=
  if l.filter.admits e.tag then { l with log := l.log.capture e } else l

/-- Adds events one after the other. -/
def captureAll (l : FilteredLog) (es : List DiagnosticEvent) : FilteredLog :=
  es.foldl capture l

end FilteredLog

end EntryGate
