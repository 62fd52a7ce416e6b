import EntryGate.Document.Codec

/-!
# Intents

What a strategy wants: a direction in an instrument.  An intent without a symbol, or with no
direction, cannot be traded.
-/

namespace EntryGate

/-- The direction of a position. -/
inductive Side where
  | flat
  | long
  | short
deriving DecidableEq, Repr

namespace Side

def name : Side → String
  | .flat => "Flat"
  | .long => "Long"
  | .short => "Short"

def ofName? : String → Option Side
  | "Flat" => some .flat
  | "Long" => some .long
  | "Short" => some .short
  | _ => none

def isLong (s : Side) : Bool := s == .long

def isFlat (s : Side) : Bool := s == .flat

instance : Codec Side where
  encode s := .text s.name
  decode format d := (d.variant? format).bind ofName?

end Side

/-- A desired position in an instrument. -/
structure PositionIntent where
  symbol : String
  side : Side
deriving DecidableEq, Repr

namespace PositionIntent

/-- Whether there is an instrument and a direction. -/
def isTradeable (p : PositionIntent) : Bool :=
  !p.symbol.isEmpty && !p.side.isFlat

instance : Codec PositionIntent where
  encode p := .record [("symbol", encode p.symbol), ("side", encode p.side)]
  decode format d := do
    let m ← Members.ofDocument? format ["symbol", "side"] d
    let symbol ← m.required? "symbol" (decode format)
    let side ← m.required? "side" (decode format)
    return ⟨symbol, side⟩

end PositionIntent

end EntryGate
