import EntryGate.Decimal.Arithmetic
import EntryGate.Text.Digits

/-!
# Decimals as text

A decimal is written with a minus sign where it is negative, at least one digit before the point,
and exactly as many digits after it as its scale says.

Reading takes an optional sign and digits with at most one point among them; underscores may stand
anywhere after the first digit.  The fraction digits that fit are all kept, and the first one that
does not fit rounds the rest, a half upwards.  Where a small number has its 28 fraction digits, an
underscore directly after them stands in the place of that digit and counts as zero.  A text that
cannot be read in this way may still be a number with an exponent.  A zero is read without its sign,
but what an exponent brings down to zero keeps it.

* `Decimal.render` writes a decimal;
* `Decimal.parsePlain?` reads one without an exponent;
* `Decimal.parse?` reads one with or without an exponent.
-/

namespace EntryGate

open Text

namespace Decimal

/-! ## Writing -/

/-- The characters of a decimal. -/
def renderChars (a : Decimal) : List Char :=
  let ds := paddedDigits (a.scale + 1) a.digits
  let whole := ds.take (ds.length - a.scale)
  let fraction := ds.drop (ds.length - a.scale)
  (if a.negative then ['-'] else []) ++ whole
    ++ (if a.scale = 0 then [] else '.' :: fraction)

/-- A decimal with all its fraction digits. -/
def render (a : Decimal) : String :=
  String.ofList a.renderChars

/-! ## Reading -/

/-- What the first digit that no longer fits does to the digits read so far. -/
def roundLast? (n scale digit : Nat) : Option (Nat × Nat) :=
  if digit < 5 then some (n, scale)
  else if n + 1 < power 2 96 then some (n + 1, scale)
  else if scale = 0 then none
  else some ((n + 5) / 10, scale - 1)

/-- What follows the digits that fit: more digits and underscores, of which the first one rounds. -/
def roundRest? (n scale : Nat) : List Char → Option (Nat × Nat)
  | [] => some (n, scale)
  | c :: cs =>
    if (c :: cs).all fun c => c.isDigit || c == '_' then
      roundLast? n scale (if c = '_' then 0 else digitValue c)
    else none

/-- A coefficient is small if certainly one more digit, whichever it is, leaves it within 64 bits. -/
def isSmall (n : Nat) : Bool :=
  decide (n < (power 2 64 - 1) / 10 - 255)

/-- Reads the digits after the point.  `n` is the coefficient so far, `scale` the number of
fraction digits in it, and `seen` tells whether there has been any digit. -/
def scanFraction? : List Char → Nat → Nat → Bool → Option (Nat × Nat)
  | [], n, scale, seen => if seen then some (n, scale) else none
  | c :: cs, n, scale, seen =>
    if c.isDigit then
      if scale < 28 ∧ 10 * n + digitValue c < power 2 96 then
        -- a small number is full with this digit, and the next character rounds whatever it is
        if scale = 27 ∧ isSmall n then roundRest? (10 * n + digitValue c) 28 cs
        else scanFraction? cs (10 * n + digitValue c) (scale + 1) true
      else roundRest? n scale (c :: cs)
    else if c = '_' ∧ seen then scanFraction? cs n scale seen
    else none

/-- Reads the digits before the point, and the fraction if there is one. -/
def scanWhole? : List Char → Nat → Bool → Option (Nat × Nat)
  | [], n, seen => if seen then some (n, 0) else none
  | c :: cs, n, seen =>
    if c.isDigit then
      if 10 * n + digitValue c < power 2 96 then scanWhole? cs (10 * n + digitValue c) true else none
    else if c = '.' then scanFraction? cs n 0 seen
    else if c = '_' ∧ seen then scanWhole? cs n seen
    else none

/-- Reads a decimal without an exponent. -/
def parsePlain? (cs : List Char) : Option Decimal :=
  match cs with
  | '-' :: rest => do
    let (n, scale) ← scanWhole? rest 0 false
    ofParts? (-(n : Int)) scale
  | '+' :: rest => do
    let (n, scale) ← scanWhole? rest 0 false
    ofParts? n scale
  | _ => do
    let (n, scale) ← scanWhole? cs 0 false
    ofParts? n scale

/-- Moves the point of `a` to the left by `k` places, rounding what lies beyond 28 fraction digits,
a half away from zero. -/
def shiftDown? (a : Decimal) (k : Nat) : Option Decimal :=
  if 28 < k then none
  else if a.scale + k ≤ 28 then ofDigits? a.negative a.digits (a.scale + k)
  else ofDigits? a.negative (divHalfUp a.digits (power 10 (a.scale + k - 28))) 28

/-- Moves the point of `a` to the right by `k` places. -/
def shiftUp? (a : Decimal) (k : Nat) : Option Decimal :=
  if k ≤ a.scale then ofDigits? a.negative a.digits (a.scale - k)
  else if 28 < k then none
  else do
    let power ← ofDigits? false (power 10 k) 0
    match a.mul power with
    | .ok b =>
      -- an exponent beyond the fraction leaves none of its zeros
      let (n, s) := stripZeros b.digits b.scale
      ofDigits? b.negative n s
    | .error _ => none

/-- Reads a decimal that has an exponent. -/
def parseExponent? (cs : List Char) : Option Decimal :=
  let isMark := fun c : Char => c == 'e' || c == 'E'
  match cs.dropWhile (fun c => !isMark c) with
  | [] => none
  | _ :: exponent => do
    let base ← parsePlain? (cs.takeWhile fun c => !isMark c)
    match exponent with
    | '-' :: ds => base.shiftDown? (← unsigned? ds)
    | ds => base.shiftUp? (← unsigned? ds)

/-- Reads a decimal, with or without an exponent. -/
def parse? (s : String) : Option Decimal :=
  match parsePlain? s.toList with
  | some a => some a
  | none => parseExponent? s.toList

end Decimal

end EntryGate
