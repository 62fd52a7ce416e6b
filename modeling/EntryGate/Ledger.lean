import EntryGate.Risk.Caps
import EntryGate.Table
import EntryGate.Text.Case

/-!
# Ledger

Positions and results of an account.  Every instrument has a book with its signed position, the
average price of that position, and the result realized so far; the results of the day and of the
week and the highest equity are kept for the whole account.

A fill in the direction of the position averages the price, a fill against it realizes a result, and
a fill beyond the position turns it around.  Marks give the price at which an open position is
valued.

Positions and numbers of contracts are machine words, and what leaves their range wraps around.  The
books are gone through in an order that the ledger has no say in: a `BookOrder` can be any.

* `Ledger.apply` carries out one event.  When a computation leaves the range of decimals the event
  is broken off there, and the changes made until then stand;
* `Ledger.equity`, `Ledger.snapshot` and the queries by symbol read the ledger.
-/

namespace EntryGate

open Text

/-- The position and results in one instrument. -/
structure Book where
  /-- Contracts held, negative for a short position. -/
  held : Int64
  avgPrice : Decimal
  realized : Decimal
  mark : Option Decimal
  pointValue : Decimal
deriving DecidableEq

namespace Book

def empty : Book := ⟨0, .zero, .zero, none, .zero⟩

/-- The position as a number. -/
def quantity (b : Book) : Int :=
  b.held.toInt

/-- The result of closing the position at its mark. -/
def unrealized (b : Book) : Except Fault Decimal :=
  match b.mark with
  | none => .ok .zero
  | some mark =>
    if b.quantity = 0 then .ok .zero
    else do
      let diff ← mark.sub b.avgPrice
      let diff := if b.quantity < 0 then diff.neg else diff
      let held ← Decimal.ofCount b.quantity.natAbs
      let perPoint ← diff.mul held
      perPoint.mul b.pointValue

/-- The average price after more contracts on the side of the position. -/
def averagePrice (b : Book) (quantity : UInt32) (price : Decimal) : Except Fault Decimal :=
  if b.quantity = 0 then .ok price
  else do
    let held ← Decimal.ofCount b.quantity.natAbs
    let added ← Decimal.ofCount quantity.toNat
    let heldValue ← b.avgPrice.mul held
    let addedValue ← price.mul added
    let value ← heldValue.add addedValue
    let size ← held.add added
    value.div size

/-- The result of closing contracts at a price. -/
def closingResult (b : Book) (closed : Nat) (price pointValue : Decimal) : Except Fault Decimal := do
  let perUnit ← price.sub b.avgPrice
  let perUnit := if b.quantity < 0 then perUnit.neg else perUnit
  let n ← Decimal.ofCount closed
  let perPoint ← perUnit.mul n
  perPoint.mul pointValue

/-- A fill as a signed number of contracts. -/
def signedQuantity (isBuy : Bool) (quantity : UInt32) : Int :=
  if isBuy then quantity.toNat else -(quantity.toNat : Int)

theorem toNat_ne_zero {quantity : UInt32} (h : quantity ≠ 0) : quantity.toNat ≠ 0 := by
  intro hzero
  exact h (UInt32.toNat_inj.1 hzero)

theorem signedQuantity_ne_zero (isBuy : Bool) {quantity : UInt32} (h : quantity ≠ 0) :
    signedQuantity isBuy quantity ≠ 0 := by
  have hnat := toNat_ne_zero h
  rw [signedQuantity]
  split <;> omega

/-- Whether a fill is on the side of the position. -/
def adds (b : Book) (signed : Int) : Bool :=
  decide ((0 ≤ b.quantity ∧ 0 < signed) ∨ (b.quantity ≤ 0 ∧ signed < 0))

/-- The average price after a fill against the position: that of the fill if it turns the position
around, and zero if it closes it. -/
def priceAfterClosing (b : Book) (quantity : UInt32) (price : Decimal) : Decimal :=
  if b.quantity.natAbs < quantity.toNat then price
  else if b.quantity.natAbs = quantity.toNat then .zero
  else b.avgPrice

/-- Books a fill and gives the result it realizes.  The point value is taken over even if the rest
cannot be computed, and a position beyond the range of its word wraps around. -/
def apply (b : Book) (isBuy : Bool) (quantity : UInt32) (price pointValue : Decimal) :
    Book × Except Fault Decimal :=
  let signed := signedQuantity isBuy quantity
  let b := { b with pointValue := pointValue }
  if b.adds signed then
    match b.averagePrice quantity price with
    | .ok avgPrice => ({ b with avgPrice := avgPrice, held := b.held + .ofInt signed }, .ok .zero)
    | .error fault => (b, .error fault)
  else
    let closed := min b.quantity.natAbs quantity.toNat
    let booked := do
      let result ← b.closingResult closed price pointValue
      let realized ← b.realized.add result
      return (result, realized)
    match booked with
    | .ok (result, realized) =>
      ({ b with
          realized := realized
          held := b.held + .ofInt signed
          avgPrice := b.priceAfterClosing quantity price }, .ok result)
    | .error fault => (b, .error fault)

end Book

/-- An order in which the books of an account are gone through.  A sum of decimals can depend on it,
since any of its steps can round. -/
structure BookOrder where
  books : Table String Book → List Book
  perm : ∀ t, (books t).Perm t.values

/-- The order in which the books were opened. -/
def BookOrder.opened : BookOrder :=
  ⟨Table.values, fun _ => .refl _⟩

/-- The books of an account and its running results. -/
structure Ledger (order : BookOrder) where
  startingEquity : Decimal
  peakEquity : Decimal
  dailyPnl : Decimal
  weeklyPnl : Decimal
  books : Table String Book
deriving DecidableEq

/-- What happens to an account. -/
inductive LedgerEvent where
  | fill (symbol : String) (isBuy : Bool) (quantity : UInt32) (price pointValue : Decimal)
  | mark (symbol : String) (price : Decimal)
  | resetDay
  | resetWeek
deriving DecidableEq

namespace Ledger

variable {order : BookOrder}

/-- An account without positions. -/
def new (order : BookOrder) (startingEquity : Decimal) : Ledger order :=
  ⟨startingEquity, startingEquity, .zero, .zero, .empty⟩

/-! ## Reading -/

/-- The book of a symbol, an empty one if there is none. -/
def book (l : Ledger order) (symbol : String) : Book :=
  (l.books.get? (symbolKey symbol)).getD .empty

def position (l : Ledger order) (symbol : String) : Int :=
  (l.book symbol).quantity

/-- The average price of an open position, zero without one. -/
def avgPrice (l : Ledger order) (symbol : String) : Decimal :=
  if (l.book symbol).quantity = 0 then .zero else (l.book symbol).avgPrice

def realized (l : Ledger order) (symbol : String) : Decimal :=
  (l.book symbol).realized

def unrealized (l : Ledger order) (symbol : String) : Except Fault Decimal :=
  (l.book symbol).unrealized

/-- An amount with the results of one book added. -/
def addBook (total : Decimal) (b : Book) : Except Fault Decimal := do
  let total ← total.add b.realized
  let valued ← b.unrealized
  total.add valued

/-- The books, in the order in which they are gone through. -/
def inOrder (l : Ledger order) : List Book :=
  order.books l.books

/-- The starting equity with the results of all books. -/
def equity (l : Ledger order) : Except Fault Decimal :=
  l.inOrder.foldlM addBook l.startingEquity

theorem inOrder_new (startingEquity : Decimal) : (new order startingEquity).inOrder = [] :=
  List.perm_nil.1 (order.perm .empty)

theorem equity_new (startingEquity : Decimal) :
    (new order startingEquity).equity = .ok startingEquity := by
  rw [equity, inOrder_new]
  rfl

/-- The number of contracts held in all instruments. -/
def contracts (l : Ledger order) : UInt64 :=
  l.inOrder.foldl (fun n b => n + .ofNat b.quantity.natAbs) 0

/-- The account as the caps see it. -/
def snapshot (l : Ledger order) : Except Fault RiskSnapshot := do
  let equity ← l.equity
  return ⟨min l.contracts.toNat Count.max, equity, l.peakEquity, l.dailyPnl, l.weeklyPnl⟩

/-! ## Events -/

/-- Raises the highest equity to the present one. -/
def raisePeak (l : Ledger order) : Ledger order × Except Fault Unit :=
  match l.equity with
  | .ok equity => (if l.peakEquity < equity then { l with peakEquity := equity } else l, .ok ())
  | .error fault => (l, .error fault)

/-- Adds a result to the day and to the week, and raises the highest equity. -/
def addResult (l : Ledger order) (result : Decimal) : Ledger order × Except Fault Unit :=
  match l.dailyPnl.add result with
  | .error fault => (l, .error fault)
  | .ok daily =>
    let l := { l with dailyPnl := daily }
    match l.weeklyPnl.add result with
    | .error fault => (l, .error fault)
    | .ok weekly => raisePeak { l with weeklyPnl := weekly }

/-- Books a fill.  A fill of no contracts is not one. -/
def fill (l : Ledger order) (symbol : String) (isBuy : Bool) (quantity : UInt32)
    (price pointValue : Decimal) : Ledger order × Except Fault Unit :=
  if quantity = 0 then (l, .ok ())
  else
    match (l.book symbol).apply isBuy quantity price pointValue with
    -- what was booked before the fault stays in the books, but the fill does not become a mark
    | (b, .error fault) => ({ l with books := l.books.put (symbolKey symbol) b }, .error fault)
    | (b, .ok result) =>
      addResult
        { l with books := l.books.put (symbolKey symbol) { b with mark := some price } } result

/-- Marks an instrument that has a book. -/
def mark (l : Ledger order) (symbol : String) (price : Decimal) : Ledger order × Except Fault Unit :=
  match l.books.get? (symbolKey symbol) with
  | none => (l, .ok ())
  | some b =>
    raisePeak { l with books := l.books.put (symbolKey symbol) { b with mark := some price } }

def resetDay (l : Ledger order) : Ledger order :=
  { l with dailyPnl := .zero }

/-- A new week is also a new day. -/
def resetWeek (l : Ledger order) : Ledger order :=
  { l with dailyPnl := .zero, weeklyPnl := .zero }

/-- Carries out an event. -/
def apply (l : Ledger order) : LedgerEvent → Ledger order × Except Fault Unit
  | .fill symbol isBuy quantity price pointValue => l.fill symbol isBuy quantity price pointValue
  | .mark symbol price => l.mark symbol price
  | .resetDay => (l.resetDay, .ok ())
  | .resetWeek => (l.resetWeek, .ok ())

/-- The ledger after a history of events. -/
def run (l : Ledger order) (events : List LedgerEvent) : Ledger order :=
  events.foldl (fun l e => (l.apply e).1) l

end Ledger

end EntryGate
