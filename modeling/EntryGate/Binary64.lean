import EntryGate.Decimal.Arithmetic
import EntryGate.Text.Digits

/-!
# Binary floating point numbers

Data formats have numbers with a fraction or an exponent, and these are binary numbers of 53 bits.
Nothing is computed with them beyond reading: they are turned into decimals through the shortest
digits that denote them.  All of it is exact integer arithmetic.

* `Binary64.nearest` is the binary number nearest to a quotient of natural numbers;
* `Binary64.shortest` gives the fewest digits that are read back as the same number, and among
  those the nearest ones;
* `Binary64.plainText` writes these digits without an exponent.
-/

namespace EntryGate

/-- A binary number: `mantissa * 2 ^ exponent` with a sign, or one of the exceptional values. -/
inductive Binary64 where
  | finite (negative : Bool) (mantissa : Nat) (exponent : Int)
  | infinite (negative : Bool)
  | notANumber
deriving DecidableEq, Repr

namespace Binary64

/-! ## Nearest binary number -/

/-- `n * base ^ e` as a quotient of natural numbers. -/
def scaled (n base : Nat) (e : Int) : Nat × Nat :=
  if e < 0 then (n, power base e.natAbs) else (n * power base e.natAbs, 1)

/-- The greatest `e` with `base ^ e ≤ num / den`, given an estimate that is at most one too high. -/
def floorLog (base num den : Nat) (estimate : Int) : Int :=
  let (p, q) := scaled 1 base estimate
  if p * den ≤ num * q then estimate else estimate - 1

/-- The magnitude of the binary number nearest to `num / den`, as mantissa and exponent, where a
half goes to the even mantissa.  `none` stands for a magnitude beyond the finite ones. -/
def nearestParts (num den : Nat) : Option (Nat × Int) :=
  if num = 0 then some (0, 0)
  else
    let e := floorLog 2 num den ((num.log2 : Int) - den.log2)
    -- 53 bits, or fewer for the numbers below the normal ones
    let q := max (e - 52) (-1074)
    let (p, d) := scaled 1 2 (-q)
    let m := Decimal.divHalfEven (num * p) (den * d)
    -- rounding up may have carried into a 54th bit
    let (m, q) := if m = power 2 53 then (power 2 52, q + 1) else (m, q)
    if 971 < q then none else some (m, q)

/-- The binary number nearest to `num / den` with a sign. -/
def nearest (negative : Bool) (num den : Nat) : Binary64 :=
  match nearestParts num den with
  | some (m, q) => .finite negative m q
  | none => .infinite negative

/-! ## Shortest digits -/

/-- The interval of numbers that are read back as `mantissa * 2 ^ exponent`, and the number itself,
in units of `2 ^ (exponent - 2)`: lower end, number, upper end. -/
def interval (mantissa : Nat) (exponent : Int) : Nat × Nat × Nat :=
  -- below a power of two the neighbour is only half as far away
  let below := if mantissa = power 2 52 ∧ -1074 < exponent then 1 else 2
  (4 * mantissa - below, 4 * mantissa, 4 * mantissa + 2)

/-- The candidate with digits `d` at the decimal place `place`, if it lies in the interval.  All
quantities are compared over the common denominator of both scales. -/
def admits (mantissa : Nat) (exponent place : Int) (d : Nat) : Bool :=
  let (lo, _, hi) := interval mantissa exponent
  let (t, td) := scaled 1 10 place
  let (b, bd) := scaled 1 2 (exponent - 2)
  let x := d * t * bd
  let low := lo * b * td
  let high := hi * b * td
  -- the ends of the interval are read back as the even one of two neighbours
  if mantissa % 2 = 0 then decide (low ≤ x ∧ x ≤ high) else decide (low < x ∧ x < high)

/-- Of the two neighbours of the number with the last digit at `place`, the nearer one that is read
back as the number; the upper one if both are equally near. -/
def candidate? (mantissa : Nat) (exponent place : Int) : Option Nat :=
  let (t, td) := scaled 1 10 place
  let (b, bd) := scaled mantissa 2 exponent
  let num := b * td
  let den := bd * t
  let d := num / den
  let down := admits mantissa exponent place d
  let up := admits mantissa exponent place (d + 1)
  if down && up then some (Decimal.divHalfUp num den)
  else if down then some d
  else if up then some (d + 1)
  else none

/-- The fewest digits that denote `mantissa * 2 ^ exponent`, with the place of the last one. -/
def shortest (mantissa : Nat) (exponent : Int) : Nat × Int :=
  if mantissa = 0 then (0, 0)
  else
    let (num, den) := scaled mantissa 2 exponent
    let estimate : Int := (Text.digits num).length - (Text.digits den).length
    let top := floorLog 10 num den estimate
    let attempt := (List.range 17).findSome? fun (k : Nat) =>
      let place := top - (k : Int)
      (candidate? mantissa exponent place).map fun d =>
        if d % 10 = 0 then (d / 10, place + 1) else (d, place)
    attempt.getD (0, 0)

/-- The shortest digits written without an exponent. -/
def plainChars (negative : Bool) (d : Nat) (place : Int) : List Char :=
  let body :=
    if 0 ≤ place then Text.digits (d * power 10 place.natAbs)
    else
      let ds := Text.paddedDigits (place.natAbs + 1) d
      ds.take (ds.length - place.natAbs) ++ '.' :: ds.drop (ds.length - place.natAbs)
  if negative then '-' :: body else body

/-- A finite number in digits, without an exponent. -/
def plainText? : Binary64 → Option (List Char)
  | .finite negative mantissa exponent =>
    let (d, place) := shortest mantissa exponent
    some (plainChars negative d place)
  | _ => none

/-! ## Numbers given by a significand and a power of ten -/

/-- The largest power of ten among the binary numbers. -/
def maxPower : Nat := 308

/-- The binary number nearest to a power of ten. -/
def powerOfTen (k : Nat) : Nat × Nat :=
  match nearestParts (power 10 k) 1 with
  | some (m, q) => scaled m 2 q
  | none => (power 10 k, 1)

/-- Multiplies or divides a rounded significand by powers of ten, rounding after each step.  The
steps are at most `10 ^ 308` each, and `fuel` bounds their number. -/
def scaleByPower? : Nat → Nat × Int → Int → Option (Nat × Int)
  | 0, _, _ => none
  | fuel + 1, (m, q), e =>
    let (num, den) := scaled m 2 q
    if e.natAbs ≤ maxPower then
      let (p, d) := powerOfTen e.natAbs
      if 0 ≤ e then nearestParts (num * p) (den * d) else nearestParts (num * d) (den * p)
    else if m = 0 then some (0, 0)
    else if 0 ≤ e then none
    else
      let (p, d) := powerOfTen maxPower
      match nearestParts (num * d) (den * p) with
      | some f => scaleByPower? fuel f (e + maxPower)
      | none => none

/-- The number `significand * 10 ^ e`, where the significand is rounded to a binary number first
and then scaled.  `none` if it is beyond the finite numbers. -/
def ofSignificand? (negative : Bool) (significand : Nat) (e : Int) : Option Binary64 := do
  let f ← nearestParts significand 1
  let (m, q) ← scaleByPower? (e.natAbs / maxPower + 2) f e
  return .finite negative m q

end Binary64

end EntryGate
