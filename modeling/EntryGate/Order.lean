import EntryGate.Document.Codec

/-!
# Orders

The orders of which an entry plan is made.
-/

namespace EntryGate

/-- How an order is executed. -/
inductive OrderKind where
  | market
  | limit
  | stopMarket
  | stopLimit
deriving DecidableEq, Repr

namespace OrderKind

/-- Whether an order of this kind carries a price of its own. -/
def isPriceBased : OrderKind → Bool
  | .limit => true
  | .stopLimit => true
  | _ => false

def name : OrderKind → String
  | .market => "Market"
  | .limit => "Limit"
  | .stopMarket => "StopMarket"
  | .stopLimit => "StopLimit"

def ofName? : String → Option OrderKind
  | "Market" => some .market
  | "Limit" => some .limit
  | "StopMarket" => some .stopMarket
  | "StopLimit" => some .stopLimit
  | _ => none

instance : Codec OrderKind where
  encode k := .text k.name
  decode format d := (d.variant? format).bind ofName?

end OrderKind

/-- One order, ready to be sent. -/
structure OrderIntent where
  symbol : String
  isLong : Bool
  quantity : Nat
  kind : OrderKind
  price : Decimal
  signalTag : String
  /-- The group of orders of which the execution of one cancels the others. -/
  ocoGroup : String
deriving DecidableEq

namespace OrderIntent

instance : Codec OrderIntent where
  encode o := .record
    [ ("symbol", encode o.symbol),
      ("is_long", encode o.isLong),
      ("quantity", .ofNat o.quantity),
      ("kind", encode o.kind),
      ("price", encode o.price),
      ("signal_tag", encode o.signalTag),
      ("oco_group", encode o.ocoGroup) ]
  decode format d := do
    let m ← Members.ofDocument? format
      ["symbol", "is_long", "quantity", "kind", "price", "signal_tag", "oco_group"] d
    let symbol ← m.required? "symbol" (decode format)
    let isLong ← m.required? "is_long" (decode format)
    let quantity ← m.required? "quantity" Document.count?
    let kind ← m.required? "kind" (decode format)
    let price ← m.required? "price" (decode format)
    let signalTag ← m.required? "signal_tag" (decode format)
    let ocoGroup ← m.required? "oco_group" (decode format)
    return ⟨symbol, isLong, quantity, kind, price, signalTag, ocoGroup⟩

end OrderIntent

end EntryGate
