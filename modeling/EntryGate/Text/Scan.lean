import EntryGate.Power
import EntryGate.Text.Blank
import EntryGate.Text.Digits

/-!
# Scanning

Small readers for dates and times.  A reader takes the characters in front of it and answers with
what it has read and the characters that are left, or with `none`.
-/

namespace EntryGate.Text

/-- A reader of values of type `α`. -/
abbrev Reader (α : Type) := List Char → Option (α × List Char)

/-- One up to `most` digits, as many as there are. -/
def number? (most : Nat) : Reader Nat := fun cs =>
  let ds := (cs.takeWhile Char.isDigit).take most
  if ds.isEmpty then none else some (digitsValue ds, cs.drop ds.length)

/-- Exactly `width` digits. -/
def fixedNumber? (width : Nat) : Reader Nat := fun cs =>
  let ds := cs.take width
  if ds.length = width ∧ ds.all Char.isDigit then some (digitsValue ds, cs.drop width) else none

/-- A number that blanks may precede. -/
def field? (most : Nat) : Reader Nat := fun cs =>
  number? most (trimLeft cs)

/-- The given character. -/
def char? (c : Char) : List Char → Option (List Char)
  | d :: rest => if d = c then some rest else none
  | [] => none

/-- The given character, which blanks may precede. -/
def spacedChar? (c : Char) (cs : List Char) : Option (List Char) :=
  char? c (trimLeft cs)

/-- The digits after the point of a second, in nanoseconds.  Digits beyond the ninth are skipped. -/
def nanoseconds? : Reader Nat := fun cs =>
  let ds := cs.takeWhile Char.isDigit
  let kept := ds.take 9
  if ds.isEmpty then none
  else some (digitsValue kept * power 10 (9 - kept.length), cs.drop ds.length)

/-- An optional point and fraction of a second. -/
def fraction? : Reader Nat := fun cs =>
  match cs with
  | '.' :: rest => nanoseconds? rest
  | _ => some (0, cs)

end EntryGate.Text
