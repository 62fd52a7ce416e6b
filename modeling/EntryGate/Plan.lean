import EntryGate.Order

/-!
# Entry plans

The answer to a request for an entry: either an entry order with its protective stop, or the reason
why there is none.
-/

namespace EntryGate

/-- An accepted or rejected entry. -/
structure EntryPlan where
  accepted : Bool
  reason : String
  entryOrder : Option OrderIntent
  stopOrder : Option OrderIntent
  ocoGroup : String
deriving DecidableEq

namespace EntryPlan

/-- A plan without orders.  There is always a reason: an empty one becomes `rejected`. -/
def rejected (reason : String) : EntryPlan :=
  { accepted := false
    reason := if reason.isEmpty then "rejected" else reason
    entryOrder := none
    stopOrder := none
    ocoGroup := "" }

/-- A plan with an entry order and its stop. -/
def entering (entry stop : OrderIntent) (ocoGroup : String) : EntryPlan :=
  { accepted := true
    reason := ""
    entryOrder := some entry
    stopOrder := some stop
    ocoGroup := ocoGroup }

instance : Codec EntryPlan where
  encode p := .record
    [ ("accepted", encode p.accepted),
      ("reason", encode p.reason),
      ("entry_order", encode p.entryOrder),
      ("stop_order", encode p.stopOrder),
      ("oco_group", encode p.ocoGroup) ]
  decode format d := do
    let m ← Members.ofDocument? format ["accepted", "reason", "entry_order", "stop_order", "oco_group"] d
    let accepted ← m.required? "accepted" (decode format)
    let reason ← m.required? "reason" (decode format)
    let entryOrder ← m.optional? "entry_order" (decode format)
    let stopOrder ← m.optional? "stop_order" (decode format)
    let ocoGroup ← m.required? "oco_group" (decode format)
    return ⟨accepted, reason, entryOrder, stopOrder, ocoGroup⟩

end EntryPlan

end EntryGate
