/-!
# Decimal digits

Natural numbers as runs of ASCII digits.  Reading is a fold over the digits, so a run is read the
same way whether it stands alone or inside a larger text; leading zeros are allowed.
-/

namespace EntryGate.Text

/-- The value of an ASCII digit. -/
def digitValue (c : Char) : Nat :=
  c.toNat - '0'.toNat

/-- The number that a run of digits denotes. -/
def digitsValue (ds : List Char) : Nat :=
  ds.foldl (fun n c => 10 * n + digitValue c) 0

/-- The shortest run of digits that denotes `n`. -/
def digits (n : Nat) : List Char :=
  Nat.toDigits 10 n

/-- The digits of `n` with zeros in front up to the given width. -/
def paddedDigits (width n : Nat) : List Char :=
  List.replicate (width - (digits n).length) '0' ++ digits n

/-- An integer with a minus sign where it is negative. -/
def integerText (n : Int) : String :=
  String.ofList (if n < 0 then '-' :: digits n.natAbs else digits n.natAbs)

/-- The number denoted by a text that is a non-empty run of digits with an optional plus sign. -/
def unsigned? (cs : List Char) : Option Nat :=
  let ds := match cs with
    | '+' :: rest => rest
    | _ => cs
  if !ds.isEmpty && ds.all Char.isDigit then some (digitsValue ds) else none

/-- The number denoted by a text that is a non-empty run of digits with an optional sign. -/
def signed? (cs : List Char) : Option Int :=
  match cs with
  | '-' :: rest =>
    if !rest.isEmpty && rest.all Char.isDigit then some (-(digitsValue rest : Int)) else none
  | _ => (unsigned? cs).map Int.ofNat

end EntryGate.Text
