import EntryGate.Decimal.Basic

/-!
# Decimal arithmetic

Every operation is computed exactly on integers and then brought back into range by `Decimal.fit`,
which gives up as few fraction digits as possible and rounds a half to the even neighbour.  An
operation whose integer part does not fit is a fault.

* A zero operand of a sum is dropped, so that the other operand keeps its own scale, and its sign
  even if it is a zero too.
* A product with zero is the plain zero; so is a product of two short factors whose scales add up to
  more than 47, which is below every representable value.  A product of longer factors that rounds
  to zero keeps its sign.
* A quotient without a remainder keeps the difference of the scales.  Any other quotient is computed
  nine digits at a time until nothing remains, or else to as many digits as fit, and then loses
  trailing zeros in blocks.
-/

namespace EntryGate

namespace Decimal

/-! ## Rounding of integer quotients -/

/-- The quotient rounded to the nearest integer, a half to the even neighbour. -/
def divHalfEven (n d : Nat) : Nat :=
  let q := n / d
  let r := n % d
  if d < 2 * r ∨ (2 * r = d ∧ q % 2 = 1) then q + 1 else q

/-- The quotient rounded to the nearest integer, a half upwards. -/
def divHalfUp (n d : Nat) : Nat :=
  (2 * n + d) / (2 * d)

/-- The numbers of trailing digits that may be given up to bring a scale down to at most 28. -/
def droppable (scale : Nat) : List Nat :=
  List.range' (scale - 28) (scale + 1 - (scale - 28))

/-- The least number of digits to give up so that the rest is in range. -/
def dropCount? (n scale : Nat) : Option Nat :=
  (droppable scale).find? fun k => decide (divHalfEven n (power 10 k) < power 2 96)

/-- The decimal with the given sign, digits and scale, or the given fault when out of range. -/
def ofDigits (fault : Fault) (negative : Bool) (digits scale : Nat) : Except Fault Decimal :=
  match ofDigits? negative digits scale with
  | some a => .ok a
  | none => .error fault

/-- The decimal of the given sign nearest to `n * 10 ^ -scale`, with as many fraction digits as
fit. -/
def fit (fault : Fault) (negative : Bool) (n scale : Nat) : Except Fault Decimal :=
  match dropCount? n scale with
  | some k => ofDigits fault negative (divHalfEven n (power 10 k)) (scale - k)
  | none => .error fault

/-- Removes trailing zeros together with the fraction digits they stand for. -/
def stripZeros (n : Nat) : Nat → Nat × Nat
  | 0 => (n, 0)
  | s + 1 => if n % 10 = 0 then stripZeros (n / 10) s else (n, s + 1)

/-! ## The four operations -/

/-- The coefficient of `a` when written with `scale` fraction digits. -/
def coeffAt (a : Decimal) (scale : Nat) : Int :=
  a.coeff * power 10 (scale - a.scale)

/-- The decimal nearest to the sum of two decimals. -/
def sum (fault : Fault) (a b : Decimal) : Except Fault Decimal :=
  let s := max a.scale b.scale
  let n := a.coeffAt s + b.coeffAt s
  fit fault (decide (n < 0)) n.natAbs s

def add (a b : Decimal) : Except Fault Decimal :=
  if a.digits = 0 then .ok b
  else if b.digits = 0 then .ok a
  else sum .additionOverflow a b

def sub (a b : Decimal) : Except Fault Decimal :=
  if b.digits = 0 then .ok (if a.digits = 0 then b else a)
  else if a.digits = 0 then .ok b.neg
  else sum .subtractionOverflow a b.neg

/-- Whether the digits make up a number of at most 32 bits. -/
def isShort (a : Decimal) : Bool :=
  decide (a.digits < power 2 32)

def mul (a b : Decimal) : Except Fault Decimal :=
  if a.digits = 0 ∨ b.digits = 0 then .ok zero
  else if a.isShort ∧ b.isShort ∧ 47 < a.scale + b.scale then .ok zero
  else do
    let product ← fit .multiplicationOverflow (a.negative != b.negative) (a.digits * b.digits)
      (a.scale + b.scale)
    -- only short factors take the way on which a zero loses its sign
    return if a.isShort ∧ b.isShort then product.unsignedZero else product

/-- The powers of ten by which the dividend may be extended so that the quotient has between 0 and
28 fraction digits, the largest first. -/
def extensions (a b : Decimal) : List Nat :=
  (List.range' (b.scale - a.scale) (29 + b.scale - a.scale - (b.scale - a.scale))).reverse

/-- The power of ten by which the dividend is extended.  Digits are produced nine at a time until
nothing remains, and otherwise as many as fit. -/
def extension? (a b : Decimal) : Option Nat :=
  let n := a.digits
  let d := b.digits
  ((extensions a b).find? fun k => decide (n * power 10 k / d < power 2 96)).map fun most =>
    -- a block of nine digits that leaves no remainder ends the division early
    match [9, 18, 27, 36, 45, 54].find? fun k =>
        decide (k < most ∧ n * power 10 k % d = 0) with
    | some k => max k (b.scale - a.scale)
    | none => most

/-- Removes a block of trailing zeros, if it is there. -/
def dropBlock (width : Nat) (p : Nat × Nat) : Nat × Nat :=
  if width ≤ p.2 ∧ p.1 % power 10 width = 0 then (p.1 / power 10 width, p.2 - width) else p

/-- Removes blocks of eight trailing zeros, as long as the lowest 32 bits are zero. -/
def dropEights : Nat → Nat × Nat → Nat × Nat
  | 0, p => p
  | rounds + 1, p => if p.1 % power 2 32 = 0 then dropEights rounds (dropBlock 8 p) else p

/-- Removes trailing zeros from the digits of a quotient: blocks of eight, and then one of four, one
of two and a single zero, so that some zeros may remain. -/
def dropBlocks (n scale : Nat) : Nat × Nat :=
  dropBlock 1 (dropBlock 2 (dropBlock 4 (dropEights (scale / 8) (n, scale))))

/-- A quotient that leaves a remainder at first. -/
def divInexact (a b : Decimal) : Except Fault Decimal :=
  match extension? a b with
  | none => .error .divisionOverflow
  | some k => do
    let q ← fit .divisionOverflow false (divHalfEven (a.digits * power 10 k) b.digits)
      (a.scale + k - b.scale)
    -- the sign is put back last, so that zeros are dropped from digits alone
    let (n, s) := dropBlocks q.digits q.scale
    ofDigits .divisionOverflow (a.negative != b.negative) n s

/-- The quotient of two decimals; one that rounds to zero has no sign. -/
def div (a b : Decimal) : Except Fault Decimal :=
  if b.digits = 0 then .error .divisionByZero
  else if a.digits = 0 then .ok zero
  else if a.digits % b.digits = 0 then
    ofDigits .divisionOverflow (a.negative != b.negative)
      (a.digits / b.digits * power 10 (b.scale - a.scale)) (a.scale - b.scale)
  else do
    let q ← divInexact a b
    return q.unsignedZero

/-! ## Rounding to whole numbers and to ticks -/

/-- Rounding a quotient by a power of ten cannot leave the range of a number below the bound. -/
theorem divHalfUp_power_lt {n s bound : Nat} (h : n < bound) :
    divHalfUp n (power 10 s) < bound := by
  have hpos : 0 < power 10 s := power_pos (by decide) s
  unfold divHalfUp
  rw [Nat.div_lt_iff_lt_mul (by omega)]
  have h1 : bound * (2 * power 10 s) = bound * power 10 s + bound * power 10 s := by
    rw [← Nat.mul_add, Nat.two_mul]
  have h2 : (n + 1) * power 10 s ≤ bound * power 10 s := Nat.mul_le_mul_right _ h
  have h3 : n ≤ n * power 10 s := Nat.le_mul_of_pos_right _ hpos
  have h4 : (n + 1) * power 10 s = n * power 10 s + power 10 s := Nat.succ_mul n _
  omega

/-- The nearest whole number, a half away from zero. -/
def roundWhole (a : Decimal) : Decimal :=
  if a.scale = 0 then a
  else whole a.negative (divHalfUp a.digits (power 10 a.scale)) (divHalfUp_power_lt a.digits_lt)

/-- The multiple of the tick size nearest to a price, a half away from zero.  A tick size that is
not positive leaves the price as it is. -/
def roundToTick (price tickSize : Decimal) : Except Fault Decimal :=
  if tickSize ≤ zero then .ok price
  else do
    let ticks ← price.div tickSize
    ticks.roundWhole.mul tickSize

end Decimal

end EntryGate
