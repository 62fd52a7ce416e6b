import EntryGate.Gate

/-!
# Histories of outcomes

A history of trades is a text with a letter for every win and every loss, in either case; commas and
blanks between them mean nothing.

* `Outcomes.parse` reads a history, and gives the first character that has no place in it;
* `Outcomes.replay` lets a gate take note of a history.
-/

namespace EntryGate

namespace Outcomes

/-- What a character of a history means. -/
inductive Mark where
  | win
  | loss
  | separator
deriving DecidableEq, Repr

def mark? : Char → Option Mark
  | 'W' => some .win
  | 'L' => some .loss
  | ',' => some .separator
  | ' ' => some .separator
  | _ => none

/-- The outcomes of a history, the oldest first: `true` for a win. -/
def ofChars : List Char → Except Char (List Bool)
  | [] => .ok []
  | c :: cs =>
    match mark? c.toUpper with
    | some .win => (ofChars cs).map (true :: ·)
    | some .loss => (ofChars cs).map (false :: ·)
    | some .separator => ofChars cs
    | none => .error c.toUpper

def parse (s : String) : Except Char (List Bool) :=
  ofChars s.toList

/-- The gate after outcomes, of which each is noted at the reading that the clock has then; `n` is
the number of readings taken before. -/
def replay (clock : Nat → Instant) : Nat → List Bool → Gate → Gate
  | _, [], g => g
  | n, win :: rest, g => replay clock (n + 1) rest ((g.setClock (clock n)).record win)

end Outcomes

end EntryGate
