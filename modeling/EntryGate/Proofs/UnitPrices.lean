import EntryGate.Proofs.DecimalQuotient
import EntryGate.Proofs.ExactLedger

/-!
# Trading at a price of one

In a history in which every price is 1 there is nothing to round.  Positions cost and are worth as
much as there are contracts in them, so averages are 1 again and no fill realizes anything.  Such a
history is booked exactly however long it is, also where a position leaves the range of its word.

* `Book.AtUnit` is what holds of the books, and `Book.AtUnit.apply` the step of one fill;
* `Ledger.atUnit_apply` is the step of one event, and `Ledger.runExact_of_unit_prices` the history
  as a whole.
-/

namespace EntryGate

open Decimal Text

namespace Decimal

theorem value_one : one.value = 1 := by
  have hone : one = whole false 1 (by decide) := rfl
  rw [hone, value_whole, Nat.cast_one]

/-! Steps of an exact computation, each by a decimal that has the value of its result. -/

theorem exactly_of_value {r : Except Fault Decimal} {x : ℚ} {k : Decimal → Prop}
    (h : ∃ c, r = .ok c ∧ c.value = x) (hk : ∀ c, c.value = x → k c) : Exactly r x k := by
  obtain ⟨c, hc, hvalue⟩ := h
  exact exactly_iff.2 ⟨c, hc, hvalue, hk c hvalue⟩

theorem returns_ofCount {n : Nat} {k : Decimal → Prop} (hn : n < power 2 96)
    (hk : ∀ c : Decimal, c.value = (n : ℚ) → k c) : Returns (ofCount n) k := by
  rw [ofCount, dif_pos hn]
  exact hk _ (value_whole hn)

theorem mul_of_zero {a : Decimal} (h : a.value = 0) (b : Decimal) :
    ∃ c, a.mul b = .ok c ∧ c.value = a.value * b.value :=
  mul_of_value (r := .zero) (by rw [value_zero, h, zero_mul])

end Decimal

/-! ## Books -/

namespace Book

/-- Nothing is realized, and both the position and its mark are at 1. -/
structure AtUnit (b : Book) : Prop where
  realized : b.realized.value = 0
  avgPrice : b.quantity ≠ 0 → b.avgPrice.value = 1
  mark : ∀ mark ∈ b.mark, mark.value = 1

theorem atUnit_empty : empty.AtUnit where
  realized := value_zero
  avgPrice := fun h => absurd rfl h
  mark := fun _ h => by cases h

/-- A position has fewer contracts than there are decimals to count them. -/
theorem natAbs_quantity_lt (b : Book) : b.quantity.natAbs < power 2 95 := by
  have hlow := b.held.le_toInt
  have hhigh := b.held.toInt_lt
  have hbound : 2 ^ 63 < power 2 95 := by decide
  rw [quantity]
  omega

theorem toNat_quantity_lt (quantity : UInt32) : quantity.toNat < power 2 95 :=
  Nat.lt_trans quantity.toNat_lt (by decide)

theorem lt_of_lt_half {n : Nat} (h : n < power 2 95) : n < power 2 96 := by
  rw [power_succ]
  omega

section

variable {b : Book} {isBuy : Bool} {quantity : UInt32} {price : Decimal}

theorem AtUnit.unrealizedExact (h : b.AtUnit) : b.UnrealizedExact := by
  intro mark hmark hopen
  have hsame : mark.value - b.avgPrice.value = 0 := by
    rw [h.mark mark hmark, h.avgPrice hopen, sub_self]
  refine exactly_of_value (sub_of_value (r := .zero) (by rw [value_zero, hsame]))
    fun diff hdiff => ?_
  refine returns_ofCount (lt_of_lt_half b.natAbs_quantity_lt) fun held _ => ?_
  have hfacing : (facing b.quantity diff).value = 0 := by
    rw [value_facing, hdiff, hsame, neg_zero, ite_self]
  refine exactly_of_value (mul_of_zero hfacing held) fun perPoint hper => ?_
  rw [hfacing, zero_mul] at hper
  exact exactly_of_value (mul_of_zero hper b.pointValue) fun _ _ => trivial

theorem AtUnit.valuation (h : b.AtUnit) : b.valuation = 0 := by
  rw [Book.valuation]
  cases hmark : b.mark with
  | none => rfl
  | some mark =>
    by_cases hopen : b.quantity = 0
    · simp [hopen]
    · simp [h.mark mark hmark, h.avgPrice hopen]

theorem AtUnit.averageExact (h : b.AtUnit) (hprice : price.value = 1) :
    b.AverageExact quantity price := by
  intro hopen
  have hheld := b.natAbs_quantity_lt
  have hsum : b.quantity.natAbs + quantity.toNat < power 2 96 := by
    have hadded := toNat_quantity_lt quantity
    rw [power_succ]
    omega
  refine returns_ofCount (lt_of_lt_half hheld) fun held hheldv => ?_
  refine returns_ofCount (lt_of_lt_half (toNat_quantity_lt quantity)) fun added haddedv => ?_
  refine exactly_of_value (mul_of_value (r := held) (by rw [h.avgPrice hopen, one_mul]))
    fun heldValue hheldValue => ?_
  rw [h.avgPrice hopen, one_mul] at hheldValue
  refine exactly_of_value (mul_of_value (r := added) (by rw [hprice, one_mul]))
    fun addedValue haddedValue => ?_
  rw [hprice, one_mul] at haddedValue
  have hwhole : (whole false _ hsum).value = held.value + added.value := by
    rw [value_whole, hheldv, haddedv, Nat.cast_add]
  -- the value of the whole position is its size, and so the average is 1
  refine exactly_of_value
    (add_of_value (r := whole false _ hsum) (by rw [hheldValue, haddedValue, hwhole]))
    fun value hvalue => ?_
  rw [hheldValue, haddedValue] at hvalue
  refine exactly_of_value (add_of_value (r := whole false _ hsum) hwhole) fun size hsize => ?_
  have hpos : size.value ≠ 0 := by
    rw [hsize, hheldv, haddedv]
    have hn : b.quantity.natAbs + quantity.toNat ≠ 0 := by omega
    exact_mod_cast hn
  have hdigits : size.digits ≠ 0 := fun hzero => hpos (value_of_digits_zero hzero)
  have hone : one.value = value.value / size.value := by
    rw [value_one, hvalue, ← hsize, div_self hpos]
  exact exactly_of_value (div_of_value hdigits hone) fun _ _ => trivial

theorem AtUnit.closingExact (h : b.AtUnit) (hopen : b.quantity ≠ 0) (hprice : price.value = 1)
    (quantity : UInt32) (point : Decimal) :
    b.ClosingExact (min b.quantity.natAbs quantity.toNat) price point := by
  have hsame : price.value - b.avgPrice.value = 0 := by
    rw [hprice, h.avgPrice hopen, sub_self]
  have hclosed : min b.quantity.natAbs quantity.toNat < power 2 96 := by
    have hheld := lt_of_lt_half b.natAbs_quantity_lt
    omega
  refine exactly_of_value (sub_of_value (r := .zero) (by rw [value_zero, hsame]))
    fun perUnit hunit => ?_
  refine returns_ofCount hclosed fun n _ => ?_
  have hfacing : (facing b.quantity perUnit).value = 0 := by
    rw [value_facing, hunit, hsame, neg_zero, ite_self]
  refine exactly_of_value (mul_of_zero hfacing n) fun perPoint hper => ?_
  rw [hfacing, zero_mul] at hper
  refine exactly_of_value (mul_of_zero hper point) fun result hresult => ?_
  rw [hper, zero_mul] at hresult
  refine exactly_of_value (add_of_value (r := .zero) ?_) fun _ _ => trivial
  rw [value_zero, h.realized, hresult, add_zero]

theorem AtUnit.fillExact (h : b.AtUnit) (hquantity : quantity ≠ 0) (hprice : price.value = 1)
    (point : Decimal) : b.FillExact isBuy quantity price point := by
  rw [FillExact]
  split
  · exact h.averageExact hprice
  · next hadds =>
    have hopen := quantity_ne_zero_of_not_adds hquantity (Bool.eq_false_iff.2 hadds)
    exact h.closingExact hopen hprice quantity point

/-- A position that was only added to is at the price of the fill. -/
theorem AtUnit.average (h : b.AtUnit) (hquantity : quantity ≠ 0) (hprice : price.value = 1)
    (hadds : b.adds (signedQuantity isBuy quantity) = true) :
    ∃ avg, b.averagePrice quantity price = .ok avg ∧ avg.value = 1 := by
  obtain ⟨avg, havg, hvalue⟩ := averagePrice_of_exact hadds (h.averageExact hprice)
  refine ⟨avg, havg, ?_⟩
  have hheld : (b.quantity : ℚ) * b.avgPrice.value = b.quantity := by
    by_cases hopen : b.quantity = 0
    · rw [hopen, Int.cast_zero, zero_mul]
    · rw [h.avgPrice hopen, mul_one]
  have hsize : ((b.quantity + signedQuantity isBuy quantity : Int) : ℚ) ≠ 0 :=
    Int.cast_ne_zero.2 (quantity_ne_zero_of_adds hquantity hadds)
  rw [hheld, hprice, mul_one, ← Int.cast_add] at hvalue
  exact (mul_eq_left₀ hsize).1 hvalue

/-- The price after a fill against the position, unless it is flat then. -/
theorem AtUnit.priceAfterClosing (h : b.AtUnit) (hquantity : quantity ≠ 0)
    (hprice : price.value = 1) (hadds : b.adds (signedQuantity isBuy quantity) = false)
    (hopen : (b.held + .ofInt (signedQuantity isBuy quantity)).toInt ≠ 0) :
    (b.priceAfterClosing quantity price).value = 1 := by
  have hside := opposite_of_not_adds hquantity hadds
  have hsum : b.quantity + signedQuantity isBuy quantity ≠ 0 := by
    intro hflat
    have hfits : Fits (b.held.toInt + signedQuantity isBuy quantity) := by
      rw [← Book.quantity, hflat]
      decide
    exact hopen ((toInt_add_of_fits hfits).trans hflat)
  rw [Book.priceAfterClosing]
  split
  · exact hprice
  · split
    · omega
    · exact h.avgPrice (by omega)

/-- A fill at 1 realizes nothing, and leaves the book at 1. -/
theorem AtUnit.apply (h : b.AtUnit) (isBuy : Bool) (hquantity : quantity ≠ 0)
    (hprice : price.value = 1) (point : Decimal) :
    ∃ b' result, b.apply isBuy quantity price point = (b', .ok result) ∧ result.value = 0 ∧
      b'.AtUnit := by
  cases hadds : b.adds (signedQuantity isBuy quantity) with
  | true =>
    obtain ⟨avg, havg, hvalue⟩ := h.average hquantity hprice hadds
    exact ⟨_, _, apply_of_average hadds havg point, value_zero, h.realized, fun _ => hvalue, h.mark⟩
  | false =>
    have hopen := quantity_ne_zero_of_not_adds hquantity hadds
    obtain ⟨result, realized, hresult, hrealized, hsum, hvalue⟩ :=
      closingResult_of_exact (h.closingExact hopen hprice quantity point)
    have hzero : result.value = 0 := by
      rw [hvalue, hprice, h.avgPrice hopen]
      simp
    refine ⟨_, _, apply_of_closing hadds hresult hrealized, hzero, ?_, ?_, h.mark⟩
    · rw [hsum, h.realized, hzero, add_zero]
    · exact fun hheld => h.priceAfterClosing hquantity hprice hadds hheld

theorem AtUnit.marked (h : b.AtUnit) (hprice : price.value = 1) :
    AtUnit { b with mark := some price } where
  realized := h.realized
  avgPrice := h.avgPrice
  mark := by
    rintro mark ⟨⟩
    exact hprice

end

end Book

/-! ## Ledgers -/

namespace LedgerEvent

/-- The price of the event, if it has one, is 1. -/
def UnitPrice : LedgerEvent → Prop
  | .fill _ _ _ price _ => price.value = 1
  | .mark _ price => price.value = 1
  | .resetDay | .resetWeek => True

end LedgerEvent

namespace Ledger

variable {order : BookOrder}

/-- All books are at 1. -/
def AtUnit (l : Ledger order) : Prop :=
  ∀ b ∈ l.books.values, b.AtUnit

theorem addBooksExact_of_atUnit {books : List Book} (h : ∀ b ∈ books, b.AtUnit) (total : Decimal) :
    AddBooksExact total books := by
  -- no book changes the value of the total
  induction books generalizing total with
  | nil => trivial
  | cons b rest ih =>
    have hb := h b List.mem_cons_self
    refine ⟨hb.unrealizedExact, ?_⟩
    refine exactly_of_value (add_of_value (r := total) (by rw [hb.realized, add_zero]))
      fun subtotal hsubtotal => ?_
    obtain ⟨valued, hvalued, hzero⟩ := Book.unrealized_of_exact hb.unrealizedExact
    rw [hb.valuation] at hzero
    refine returns_iff.2 ⟨valued, hvalued, ?_⟩
    refine exactly_of_value (add_of_value (r := subtotal) (by rw [hzero, add_zero]))
      fun next _ => ?_
    exact ih (fun other hother => h other (List.mem_cons_of_mem _ hother)) next

theorem AtUnit.equityExact {l : Ledger order} (h : l.AtUnit) : l.EquityExact :=
  addBooksExact_of_atUnit (fun b hb => h b ((order.perm l.books).mem_iff.1 hb)) l.startingEquity

theorem AtUnit.of_put {l l' : Ledger order} {key : String} {b : Book} (h : l.AtUnit)
    (hb : b.AtUnit) (hbooks : l'.books = l.books.put key b) : l'.AtUnit := by
  intro other hother
  rw [hbooks] at hother
  rcases Table.mem_values_put hother with rfl | hother
  · exact hb
  · exact h other hother

theorem AtUnit.book {l : Ledger order} (h : l.AtUnit) (symbol : String) :
    (l.book symbol).AtUnit := by
  rw [Ledger.book]
  cases hb : l.books.get? (symbolKey symbol) with
  | none => exact Book.atUnit_empty
  | some b => exact h b (Table.mem_values_of_get? hb)

/-- A result of zero is added to both periods exactly. -/
theorem resultExact_of_zero (l : Ledger order) {result : Decimal} (h : result.value = 0) :
    l.ResultExact result := by
  refine ⟨exactly_of_value (add_of_value (r := l.dailyPnl) ?_) fun _ _ => trivial,
    exactly_of_value (add_of_value (r := l.weeklyPnl) ?_) fun _ _ => trivial⟩
  · rw [h, add_zero]
  · rw [h, add_zero]

theorem atUnit_fill {l : Ledger order} (h : l.AtUnit) {symbol : String} {isBuy : Bool}
    {quantity : UInt32} {price : Decimal} (point : Decimal) (hprice : price.value = 1) :
    l.EventExact (.fill symbol isBuy quantity price point) ∧
      (l.fill symbol isBuy quantity price point).1.AtUnit := by
  by_cases hquantity : quantity = 0
  · refine ⟨fun hne => absurd hquantity hne, ?_⟩
    rw [fill, if_pos hquantity]
    exact h
  · obtain ⟨b, result, happly, hzero, hb⟩ :=
      (h.book symbol).apply isBuy hquantity hprice point
    have hbooks : (l.fill symbol isBuy quantity price point).1.books =
        l.books.put (symbolKey symbol) { b with mark := some price } := by
      simp only [fill, hquantity, if_false, happly]
      exact (addResult_fst _ result).1
    have hfilled : (l.fill symbol isBuy quantity price point).1.AtUnit :=
      h.of_put (hb.marked hprice) hbooks
    refine ⟨fun _ => ⟨(h.book symbol).fillExact hquantity hprice point, ?_, hfilled.equityExact⟩,
      hfilled⟩
    rw [happly]
    exact l.resultExact_of_zero hzero

/-- An event at 1 is booked exactly, and leaves all books at 1. -/
theorem atUnit_apply {l : Ledger order} (h : l.AtUnit) {e : LedgerEvent} (hprice : e.UnitPrice) :
    l.EventExact e ∧ (l.apply e).1.AtUnit := by
  cases e with
  | fill symbol isBuy quantity price point => exact atUnit_fill h point hprice
  | mark symbol price =>
    have hmarked : (l.mark symbol price).1.AtUnit := by
      cases hb : l.books.get? (symbolKey symbol) with
      | none =>
        rw [mark_of_no_book price hb]
        exact h
      | some b =>
        have hunit := h b (Table.mem_values_of_get? hb)
        exact h.of_put (hunit.marked hprice) (mark_of_book price hb).1
    exact ⟨fun _ => hmarked.equityExact, hmarked⟩
  | resetDay => exact ⟨trivial, h⟩
  | resetWeek => exact ⟨trivial, h⟩

/-- A history in which all prices are 1 is booked exactly. -/
theorem runExact_of_unit_prices {start : Decimal} {events : List LedgerEvent}
    (h : ∀ e ∈ events, e.UnitPrice) : RunExact (new order start) events := by
  have hrun : ∀ (events : List LedgerEvent) (l : Ledger order), l.AtUnit →
      (∀ e ∈ events, e.UnitPrice) → RunExact l events := by
    intro events
    induction events with
    | nil => exact fun _ _ _ => trivial
    | cons e rest ih =>
      intro l hl hprices
      obtain ⟨hexact, hnext⟩ := atUnit_apply hl (hprices e List.mem_cons_self)
      exact ⟨hexact, ih _ hnext fun other hother => hprices other (List.mem_cons_of_mem _ hother)⟩
  exact hrun events _ (fun b hb => by cases hb) h

end Ledger
end EntryGate
