/-!
# Identifiers

Orders that belong together share an identifier: 32 hexadecimal digits made from sixteen random
bytes, in which the version (a four in the thirteenth digit) and the variant (eight to eleven in the
seventeenth) are fixed.
-/

namespace EntryGate

namespace Identifier

def hexDigit (n : Nat) : Char :=
  Nat.digitChar (n % 16)

/-- The two digits of a byte. -/
def hexByte (n : Nat) : List Char :=
  [hexDigit (n / 16), hexDigit n]

/-- The digits of a sequence of bytes. -/
def hexChars (bytes : List Nat) : List Char :=
  bytes.flatMap hexByte

/-- The bytes with version and variant put in. -/
def stamped (bytes : List Nat) : List Nat :=
  (bytes.modify 6 fun b => 64 + b % 16).modify 8 fun b => 128 + b % 64

/-- The identifier made from random bytes. -/
def ofBytes (bytes : List Nat) : String :=
  String.ofList (hexChars (stamped bytes))

end Identifier

end EntryGate
