import EntryGate.Ledger
import EntryGate.Proofs.DecimalValue
import Mathlib.Tactic.FieldSimp
import Mathlib.Tactic.Linarith
import Mathlib.Tactic.Ring

/-!
# Exact bookkeeping

A ledger computes with decimals, which round and overflow.  This file says what it means that an
event is booked without either, by following the computations of the ledger step by step, and what
the books then contain as numbers.

* `Book.FillExact` and `Book.UnrealizedExact` follow a fill and a valuation, `Ledger.EventExact` a
  whole event, and `Ledger.RunExact` a history of events;
* `Book.apply_of_exact` is all that a fill does to a book: the position changes by the signed
  quantity, and the realized result by what keeps the cost of the position right;
* `Book.Fits` is the range of positions.  A fill that stays in it changes the position as a number,
  and any other one only the word that holds it (`Book.Filled.quantity`);
* `Ledger.equity_of_exact` is the equity as a sum over the books.
-/

namespace EntryGate

open Decimal Text

/-! ## Books -/

namespace Book

/-- A price difference as the holder of a position sees it. -/
def facing (quantity : Int) (diff : Decimal) : Decimal :=
  if quantity < 0 then diff.neg else diff

/-- The valuation of an open position neither rounds nor ends in a fault. -/
def UnrealizedExact (b : Book) : Prop :=
  ∀ mark ∈ b.mark, b.quantity ≠ 0 →
    Exactly (mark.sub b.avgPrice) (mark.value - b.avgPrice.value) fun diff =>
    Returns (ofCount b.quantity.natAbs) fun held =>
    Exactly ((facing b.quantity diff).mul held) ((facing b.quantity diff).value * held.value)
      fun perPoint =>
    Exactly (perPoint.mul b.pointValue) (perPoint.value * b.pointValue.value) fun _ => True

/-- The average over the position and more contracts neither rounds nor ends in a fault. -/
def AverageExact (b : Book) (quantity : UInt32) (price : Decimal) : Prop :=
  b.quantity ≠ 0 →
    Returns (ofCount b.quantity.natAbs) fun held =>
    Returns (ofCount quantity.toNat) fun added =>
    Exactly (b.avgPrice.mul held) (b.avgPrice.value * held.value) fun heldValue =>
    Exactly (price.mul added) (price.value * added.value) fun addedValue =>
    Exactly (heldValue.add addedValue) (heldValue.value + addedValue.value) fun value =>
    Exactly (held.add added) (held.value + added.value) fun size =>
    Exactly (value.div size) (value.value / size.value) fun _ => True

/-- The result of closing contracts, and the sum of all results, neither round nor end in a
fault. -/
def ClosingExact (b : Book) (closed : Nat) (price pointValue : Decimal) : Prop :=
  Exactly (price.sub b.avgPrice) (price.value - b.avgPrice.value) fun perUnit =>
  Returns (ofCount closed) fun n =>
  Exactly ((facing b.quantity perUnit).mul n) ((facing b.quantity perUnit).value * n.value)
    fun perPoint =>
  Exactly (perPoint.mul pointValue) (perPoint.value * pointValue.value) fun result =>
  Exactly (b.realized.add result) (b.realized.value + result.value) fun _ => True

/-- Booking a fill neither rounds nor ends in a fault. -/
def FillExact (b : Book) (isBuy : Bool) (quantity : UInt32) (price pointValue : Decimal) : Prop :=
  if b.adds (signedQuantity isBuy quantity) then b.AverageExact quantity price
  else b.ClosingExact (min b.quantity.natAbs quantity.toNat) price pointValue

instance (b : Book) : Decidable b.UnrealizedExact := by
  delta UnrealizedExact
  infer_instance

instance (b : Book) (quantity : UInt32) (price : Decimal) :
    Decidable (b.AverageExact quantity price) := by
  delta AverageExact
  infer_instance

instance (b : Book) (closed : Nat) (price pointValue : Decimal) :
    Decidable (b.ClosingExact closed price pointValue) := by
  delta ClosingExact
  infer_instance

instance (b : Book) (isBuy : Bool) (quantity : UInt32) (price pointValue : Decimal) :
    Decidable (b.FillExact isBuy quantity price pointValue) := by
  delta FillExact
  infer_instance

/-! ### Valuation -/

/-- The result of closing the position at its mark, as a number. -/
def valuation (b : Book) : ℚ :=
  match b.mark with
  | none => 0
  | some mark => b.quantity * (mark.value - b.avgPrice.value) * b.pointValue.value

theorem value_facing (q : Int) (a : Decimal) :
    (facing q a).value = if q < 0 then -a.value else a.value := by
  rw [facing]
  split
  · exact value_neg a
  · rfl

theorem cast_of_eq_neg {n : Nat} {q : Int} (h : (n : Int) = -q) : (n : ℚ) = -q := by
  rw [← Int.cast_natCast, h, Int.cast_neg]

theorem cast_of_eq {n : Nat} {q : Int} (h : (n : Int) = q) : (n : ℚ) = q := by
  rw [← Int.cast_natCast, h]

/-- Times the size of the position, a difference is seen with the sign of the position. -/
theorem value_facing_mul_natAbs (q : Int) (a : Decimal) :
    (facing q a).value * (q.natAbs : ℚ) = q * a.value := by
  rw [value_facing]
  by_cases h : q < 0
  · rw [if_pos h, cast_of_eq_neg (q := q) (by omega)]
    ring
  · rw [if_neg h, cast_of_eq (q := q) (by omega)]
    ring

theorem unrealized_of_exact {b : Book} (h : b.UnrealizedExact) :
    ∃ u, b.unrealized = .ok u ∧ u.value = b.valuation := by
  rw [unrealized, valuation]
  cases hmark : b.mark with
  | none => exact ⟨.zero, rfl, value_zero⟩
  | some mark =>
    by_cases hq : b.quantity = 0
    · refine ⟨.zero, by simp [hq], ?_⟩
      simp [hq]
    · obtain ⟨diff, hdiff, hdiffv, hrest⟩ := exactly_iff.1 (h mark hmark hq)
      obtain ⟨held, hheld, hrest⟩ := returns_iff.1 hrest
      obtain ⟨perPoint, hper, hperv, hrest⟩ := exactly_iff.1 hrest
      obtain ⟨u, hu, huv, -⟩ := exactly_iff.1 hrest
      refine ⟨u, ?_, ?_⟩
      · rw [facing] at hper
        simp only [hq, if_false, hdiff, hheld, hper, hu, bind, Except.bind]
      · rw [huv, hperv, value_of_ofCount hheld, value_facing_mul_natAbs, hdiffv]

/-! ### Fills -/

/-- The two ways of being a fill on the side of the position. -/
theorem same_side_of_adds {b : Book} {isBuy : Bool} {quantity : UInt32}
    (h : b.adds (signedQuantity isBuy quantity) = true) :
    (0 ≤ b.quantity ∧ signedQuantity isBuy quantity = quantity.toNat) ∨
      (b.quantity ≤ 0 ∧ signedQuantity isBuy quantity = -(quantity.toNat : Int)) := by
  simp only [adds, signedQuantity] at h ⊢
  cases isBuy with
  | true =>
    simp only [if_true, decide_eq_true_eq] at h ⊢
    exact .inl ⟨by omega, trivial⟩
  | false =>
    simp only [Bool.false_eq_true, if_false, decide_eq_true_eq] at h ⊢
    exact .inr ⟨by omega, trivial⟩

/-- The two ways of being a fill against the position. -/
theorem opposite_of_not_adds {b : Book} {isBuy : Bool} {quantity : UInt32} (hquantity : quantity ≠ 0)
    (h : b.adds (signedQuantity isBuy quantity) = false) :
    (0 < b.quantity ∧ signedQuantity isBuy quantity = -(quantity.toNat : Int)) ∨
      (b.quantity < 0 ∧ signedQuantity isBuy quantity = quantity.toNat) := by
  have hnat := toNat_ne_zero hquantity
  simp only [adds, signedQuantity] at h ⊢
  cases isBuy with
  | true =>
    simp only [if_true, decide_eq_false_iff_not] at h ⊢
    exact .inr ⟨by omega, trivial⟩
  | false =>
    simp only [Bool.false_eq_true, if_false, decide_eq_false_iff_not] at h ⊢
    exact .inl ⟨by omega, trivial⟩

/-- What a fill on the side of the position makes of its average price. -/
theorem averagePrice_of_exact {b : Book} {isBuy : Bool} {quantity : UInt32} {price : Decimal}
    (hadds : b.adds (signedQuantity isBuy quantity) = true)
    (h : b.AverageExact quantity price) :
    ∃ avg, b.averagePrice quantity price = .ok avg ∧
      ((b.quantity + signedQuantity isBuy quantity : Int) : ℚ) * avg.value =
        b.quantity * b.avgPrice.value + signedQuantity isBuy quantity * price.value := by
  rw [averagePrice]
  by_cases hq : b.quantity = 0
  · refine ⟨price, by simp [hq], ?_⟩
    simp [hq]
  · obtain ⟨held, hheld, hrest⟩ := returns_iff.1 (h hq)
    obtain ⟨added, hadded, hrest⟩ := returns_iff.1 hrest
    obtain ⟨heldValue, hhv, hhvv, hrest⟩ := exactly_iff.1 hrest
    obtain ⟨addedValue, hav, havv, hrest⟩ := exactly_iff.1 hrest
    obtain ⟨value, hvalue, hvaluev, hrest⟩ := exactly_iff.1 hrest
    obtain ⟨size, hsize, hsizev, hrest⟩ := exactly_iff.1 hrest
    obtain ⟨avg, havg, havgv, -⟩ := exactly_iff.1 hrest
    refine ⟨avg, ?_, ?_⟩
    · simp only [hq, if_false, hheld, hadded, hhv, hav, hvalue, hsize, havg, bind, Except.bind]
    · have hpos : (0 : ℚ) < (b.quantity.natAbs : ℚ) + quantity.toNat := by
        have hn : 0 < b.quantity.natAbs + quantity.toNat := by omega
        exact_mod_cast hn
      -- the average times the size, with the size and the two parts of it given the same sign
      have hmul : avg.value * ((b.quantity.natAbs : ℚ) + quantity.toNat) =
          b.avgPrice.value * b.quantity.natAbs + price.value * quantity.toNat := by
        rw [havgv, hvaluev, hsizev, hhvv, havv, value_of_ofCount hheld, value_of_ofCount hadded]
        field_simp
      rcases same_side_of_adds hadds with ⟨hlong, hsigned⟩ | ⟨hshort, hsigned⟩
      · rw [cast_of_eq (n := b.quantity.natAbs) (q := b.quantity) (by omega)] at hmul
        rw [hsigned]
        push_cast
        linarith
      · rw [cast_of_eq_neg (n := b.quantity.natAbs) (q := b.quantity) (by omega)] at hmul
        rw [hsigned]
        push_cast
        linarith

/-- What closing contracts realizes. -/
theorem closingResult_of_exact {b : Book} {closed : Nat} {price pointValue : Decimal}
    (h : b.ClosingExact closed price pointValue) :
    ∃ result realized, b.closingResult closed price pointValue = .ok result ∧
      b.realized.add result = .ok realized ∧
      realized.value = b.realized.value + result.value ∧
      result.value =
        (if b.quantity < 0 then -(price.value - b.avgPrice.value)
          else price.value - b.avgPrice.value) * closed * pointValue.value := by
  obtain ⟨perUnit, hunit, hunitv, hrest⟩ := exactly_iff.1 h
  obtain ⟨n, hn, hrest⟩ := returns_iff.1 hrest
  obtain ⟨perPoint, hper, hperv, hrest⟩ := exactly_iff.1 hrest
  obtain ⟨result, hresult, hresultv, hrest⟩ := exactly_iff.1 hrest
  obtain ⟨realized, hrealized, hrealizedv, -⟩ := exactly_iff.1 hrest
  refine ⟨result, realized, ?_, hrealized, hrealizedv, ?_⟩
  · rw [facing] at hper
    simp only [closingResult, hunit, hn, hper, hresult, bind, Except.bind]
  · rw [hresultv, hperv, value_of_ofCount hn, value_facing, hunitv]

/-- The numbers that a position can be. -/
def Fits (n : Int) : Prop :=
  Int64.minValue.toInt ≤ n ∧ n ≤ Int64.maxValue.toInt

instance (n : Int) : Decidable (Fits n) :=
  inferInstanceAs (Decidable (_ ∧ _))

/-- In its range, a word changes by the number that is added to it. -/
theorem toInt_add_of_fits {word : Int64} {n : Int} (h : Fits (word.toInt + n)) :
    (word + .ofInt n).toInt = word.toInt + n := by
  obtain ⟨hlow, hhigh⟩ := h
  rw [Int64.toInt_minValue] at hlow
  rw [Int64.toInt_maxValue] at hhigh
  rw [Int64.toInt_add, Int64.toInt_ofInt, Int.add_bmod_bmod, Int64.size]
  exact Int.bmod_eq_of_le (by omega) (by omega)

/-- All that a fill does to a book.  The sum of the position and the fill stands for the position
after it here, which it is as long as it fits. -/
structure Filled (b : Book) (signed : Int) (price point : Decimal) (b' : Book) (result : Decimal) :
    Prop where
  held : b'.held = b.held + .ofInt signed
  mark : b'.mark = b.mark
  pointValue : b'.pointValue = point
  realized : b'.realized.value = b.realized.value + result.value
  /-- The result makes up for the change of the cost of the position beyond that of the fill. -/
  result : result.value = point.value *
    (((b.quantity + signed : Int) : ℚ) * b'.avgPrice.value - b.quantity * b.avgPrice.value
      - signed * price.value)
  flat : b.quantity + signed = 0 → b'.avgPrice = .zero

theorem Filled.quantity {b b' : Book} {signed : Int} {price point result : Decimal}
    (h : Filled b signed price point b' result) (hfits : Fits (b.quantity + signed)) :
    b'.quantity = b.quantity + signed := by
  rw [Book.quantity, h.held]
  exact toInt_add_of_fits hfits

/-- What a fill against the position realizes is the change of the cost beyond that of the fill. -/
theorem closing_value {b : Book} {isBuy : Bool} {quantity : UInt32} (price : Decimal)
    (hquantity : quantity ≠ 0) (h : b.adds (signedQuantity isBuy quantity) = false) :
    (if b.quantity < 0 then -(price.value - b.avgPrice.value)
        else price.value - b.avgPrice.value) * (min b.quantity.natAbs quantity.toNat : Nat) =
      ((b.quantity + signedQuantity isBuy quantity : Int) : ℚ) *
          (b.priceAfterClosing quantity price).value
        - b.quantity * b.avgPrice.value - signedQuantity isBuy quantity * price.value := by
  rcases opposite_of_not_adds hquantity h with ⟨hpos, hsigned⟩ | ⟨hneg, hsigned⟩
  · -- a long position is sold
    have hq := cast_of_eq (n := b.quantity.natAbs) (q := b.quantity) (by omega)
    rw [hsigned, if_neg (by omega), priceAfterClosing]
    rcases Nat.lt_trichotomy b.quantity.natAbs quantity.toNat with hlt | heq | hgt
    · rw [if_pos hlt, Nat.min_eq_left (by omega), hq]
      push_cast
      ring
    · have hn := cast_of_eq (n := quantity.toNat) (q := b.quantity) (by omega)
      rw [if_neg (by omega), if_pos heq, Nat.min_eq_right (by omega)]
      push_cast
      rw [hn, value_zero]
      ring
    · rw [if_neg (by omega), if_neg (by omega), Nat.min_eq_right (by omega)]
      push_cast
      ring
  · -- a short position is bought back
    have hq := cast_of_eq_neg (n := b.quantity.natAbs) (q := b.quantity) (by omega)
    rw [hsigned, if_pos hneg, priceAfterClosing]
    rcases Nat.lt_trichotomy b.quantity.natAbs quantity.toNat with hlt | heq | hgt
    · rw [if_pos hlt, Nat.min_eq_left (by omega), hq]
      push_cast
      ring
    · have hn := cast_of_eq_neg (n := quantity.toNat) (q := b.quantity) (by omega)
      rw [if_neg (by omega), if_pos heq, Nat.min_eq_right (by omega)]
      push_cast
      rw [hn, value_zero]
      ring
    · rw [if_neg (by omega), if_neg (by omega), Nat.min_eq_right (by omega)]
      push_cast
      ring

theorem flat_after_closing {b : Book} {isBuy : Bool} {quantity : UInt32} (price : Decimal)
    (hquantity : quantity ≠ 0) (h : b.adds (signedQuantity isBuy quantity) = false)
    (hflat : b.quantity + signedQuantity isBuy quantity = 0) :
    b.priceAfterClosing quantity price = .zero := by
  have habs : b.quantity.natAbs = quantity.toNat := by
    rcases opposite_of_not_adds hquantity h with ⟨hpos, hsigned⟩ | ⟨hneg, hsigned⟩
    · omega
    · omega
  rw [priceAfterClosing, if_neg (by omega), if_pos habs]

theorem quantity_ne_zero_of_adds {b : Book} {isBuy : Bool} {quantity : UInt32}
    (hquantity : quantity ≠ 0) (h : b.adds (signedQuantity isBuy quantity) = true) :
    b.quantity + signedQuantity isBuy quantity ≠ 0 := by
  have hnat := toNat_ne_zero hquantity
  rcases same_side_of_adds h with ⟨hlong, hsigned⟩ | ⟨hshort, hsigned⟩
  · omega
  · omega

theorem quantity_ne_zero_of_not_adds {b : Book} {isBuy : Bool} {quantity : UInt32}
    (hquantity : quantity ≠ 0) (h : b.adds (signedQuantity isBuy quantity) = false) :
    b.quantity ≠ 0 := by
  rcases opposite_of_not_adds hquantity h with ⟨hlong, -⟩ | ⟨hshort, -⟩
  · omega
  · omega

/-! In both branches of a fill the point value is taken over first, and the rest does not depend on
it. -/

theorem apply_of_average {b : Book} {isBuy : Bool} {quantity : UInt32} {price avg : Decimal}
    (hadds : b.adds (signedQuantity isBuy quantity) = true)
    (havg : b.averagePrice quantity price = .ok avg) (point : Decimal) :
    b.apply isBuy quantity price point =
      ({ b with
          pointValue := point
          avgPrice := avg
          held := b.held + .ofInt (signedQuantity isBuy quantity) }, .ok .zero) := by
  have hadds' : Book.adds { b with pointValue := point } (signedQuantity isBuy quantity) = true :=
    hadds
  have havg' : Book.averagePrice { b with pointValue := point } quantity price = .ok avg := havg
  simp only [apply, hadds', havg', if_true]

theorem apply_of_closing {b : Book} {isBuy : Bool} {quantity : UInt32}
    {price point result realized : Decimal}
    (hadds : b.adds (signedQuantity isBuy quantity) = false)
    (hresult : b.closingResult (min b.quantity.natAbs quantity.toNat) price point = .ok result)
    (hrealized : b.realized.add result = .ok realized) :
    b.apply isBuy quantity price point =
      ({ b with
          pointValue := point
          realized := realized
          held := b.held + .ofInt (signedQuantity isBuy quantity)
          avgPrice := b.priceAfterClosing quantity price }, .ok result) := by
  have hadds' : Book.adds { b with pointValue := point } (signedQuantity isBuy quantity) = false :=
    hadds
  have hresult' : Book.closingResult { b with pointValue := point }
      (min (Book.quantity { b with pointValue := point }).natAbs quantity.toNat) price point =
        .ok result := hresult
  simp only [apply, hadds', hresult', hrealized, bind, Except.bind, pure, Except.pure,
    Bool.false_eq_true, if_false]
  rfl

theorem apply_of_exact {b : Book} {isBuy : Bool} {quantity : UInt32} {price point : Decimal}
    (hquantity : quantity ≠ 0) (h : b.FillExact isBuy quantity price point) :
    ∃ b' result, b.apply isBuy quantity price point = (b', .ok result) ∧
      Filled b (signedQuantity isBuy quantity) price point b' result := by
  cases hadds : b.adds (signedQuantity isBuy quantity) with
  | true =>
    rw [FillExact, if_pos hadds] at h
    obtain ⟨avg, havg, havgv⟩ := averagePrice_of_exact hadds h
    refine ⟨_, _, apply_of_average hadds havg point, ⟨rfl, rfl, rfl, ?_, ?_, ?_⟩⟩
    · rw [value_zero, add_zero]
    · rw [havgv, value_zero]
      ring
    · intro hflat
      exact absurd hflat (quantity_ne_zero_of_adds hquantity hadds)
  | false =>
    rw [FillExact, if_neg (by simp [hadds])] at h
    obtain ⟨result, realized, hresult, hrealized, hrealizedv, hresultv⟩ :=
      closingResult_of_exact h
    refine ⟨_, _, apply_of_closing hadds hresult hrealized, ⟨rfl, rfl, rfl, hrealizedv, ?_, ?_⟩⟩
    · rw [hresultv, closing_value price hquantity hadds]
      ring
    · intro hflat
      exact flat_after_closing price hquantity hadds hflat

/-- The results of a book, realized or not, as a number. -/
def worth (b : Book) : ℚ :=
  b.realized.value + b.valuation

theorem worth_marked (b : Book) (price : Decimal) :
    worth { b with mark := some price } =
      b.realized.value + b.quantity * (price.value - b.avgPrice.value) * b.pointValue.value := rfl

end Book

/-! ## Ledgers -/

namespace Ledger

variable {order : BookOrder}

/-- Adding the results of books to a total neither rounds nor ends in a fault. -/
def AddBooksExact : Decimal → List Book → Prop
  | _, [] => True
  | total, b :: rest =>
    b.UnrealizedExact ∧
      Exactly (total.add b.realized) (total.value + b.realized.value) fun subtotal =>
      Returns b.unrealized fun valued =>
      Exactly (subtotal.add valued) (subtotal.value + valued.value) fun total =>
      AddBooksExact total rest

/-- The computation of the equity neither rounds nor ends in a fault. -/
def EquityExact (l : Ledger order) : Prop :=
  AddBooksExact l.startingEquity l.inOrder

/-- Adding a result to the day and to the week neither rounds nor ends in a fault. -/
def ResultExact (l : Ledger order) (result : Decimal) : Prop :=
  (Exactly (l.dailyPnl.add result) (l.dailyPnl.value + result.value) fun _ => True) ∧
    Exactly (l.weeklyPnl.add result) (l.weeklyPnl.value + result.value) fun _ => True

/-- No computation for an event rounds or ends in a fault. -/
def EventExact (l : Ledger order) : LedgerEvent → Prop
  | .fill symbol isBuy quantity price point =>
    quantity ≠ 0 →
      (l.book symbol).FillExact isBuy quantity price point ∧
        (Returns ((l.book symbol).apply isBuy quantity price point).2 fun result =>
          l.ResultExact result) ∧
        (l.fill symbol isBuy quantity price point).1.EquityExact
  | .mark symbol price =>
    (l.books.get? (symbolKey symbol)).isSome → (l.mark symbol price).1.EquityExact
  | .resetDay => True
  | .resetWeek => True

/-- No computation for a history of events rounds or ends in a fault. -/
def RunExact : Ledger order → List LedgerEvent → Prop
  | _, [] => True
  | l, e :: rest => l.EventExact e ∧ RunExact (l.apply e).1 rest

instance decidableAddBooksExact :
    (total : Decimal) → (books : List Book) → Decidable (AddBooksExact total books)
  | _, [] => inferInstanceAs (Decidable True)
  | total, b :: rest =>
    have := fun total => decidableAddBooksExact total rest
    inferInstanceAs (Decidable (b.UnrealizedExact ∧
      Exactly (total.add b.realized) (total.value + b.realized.value) fun subtotal =>
      Returns b.unrealized fun valued =>
      Exactly (subtotal.add valued) (subtotal.value + valued.value) fun total =>
      AddBooksExact total rest))

instance (l : Ledger order) : Decidable l.EquityExact :=
  decidableAddBooksExact l.startingEquity l.inOrder

instance (l : Ledger order) (result : Decimal) : Decidable (l.ResultExact result) := by
  delta ResultExact
  infer_instance

instance (l : Ledger order) : (e : LedgerEvent) → Decidable (l.EventExact e)
  | .fill symbol isBuy quantity price point =>
    inferInstanceAs (Decidable (quantity ≠ 0 →
      (l.book symbol).FillExact isBuy quantity price point ∧
        (Returns ((l.book symbol).apply isBuy quantity price point).2 fun result =>
          l.ResultExact result) ∧
        (l.fill symbol isBuy quantity price point).1.EquityExact))
  | .mark symbol price =>
    inferInstanceAs (Decidable
      ((l.books.get? (symbolKey symbol)).isSome → (l.mark symbol price).1.EquityExact))
  | .resetDay => inferInstanceAs (Decidable True)
  | .resetWeek => inferInstanceAs (Decidable True)

instance decidableRunExact :
    (l : Ledger order) → (events : List LedgerEvent) → Decidable (RunExact l events)
  | _, [] => inferInstanceAs (Decidable True)
  | l, e :: rest =>
    have := decidableRunExact (l.apply e).1 rest
    inferInstanceAs (Decidable (l.EventExact e ∧ RunExact (l.apply e).1 rest))

theorem runExact_append {l : Ledger order} {events : List LedgerEvent} {e : LedgerEvent} :
    RunExact l (events ++ [e]) ↔ RunExact l events ∧ (l.run events).EventExact e := by
  induction events generalizing l with
  | nil => simp [RunExact, run]
  | cons first rest ih =>
    rw [List.cons_append, RunExact, RunExact, ih, and_assoc]
    rfl

/-! ### Equity -/

theorem foldlM_addBook_of_exact {total : Decimal} {books : List Book}
    (h : AddBooksExact total books) :
    ∃ e, books.foldlM addBook total = .ok e ∧
      e.value = total.value + (books.map Book.worth).sum := by
  -- every book changes the total with which the rest of the books is added
  induction books generalizing total with
  | nil => exact ⟨total, rfl, by simp⟩
  | cons b rest ih =>
    obtain ⟨hunrealized, hadd⟩ := h
    obtain ⟨subtotal, hsub, hsubv, hadd⟩ := exactly_iff.1 hadd
    obtain ⟨valued, hvalued, hadd⟩ := returns_iff.1 hadd
    obtain ⟨next, hnext, hnextv, hrest⟩ := exactly_iff.1 hadd
    obtain ⟨e, he, hev⟩ := ih hrest
    obtain ⟨u, hu, huv⟩ := Book.unrealized_of_exact hunrealized
    rw [hu] at hvalued
    cases hvalued
    have hbook : addBook total b = .ok next := by
      simp only [addBook, hsub, hu, hnext, bind, Except.bind]
    refine ⟨e, ?_, ?_⟩
    · rw [List.foldlM_cons, hbook]
      exact he
    · rw [hev, hnextv, hsubv, huv, List.map_cons, List.sum_cons, Book.worth]
      ring

/-- The equity is the starting equity with the worth of every book. -/
theorem equity_of_exact {l : Ledger order} (h : l.EquityExact) :
    ∃ e, l.equity = .ok e ∧
      e.value = l.startingEquity.value + (l.books.values.map Book.worth).sum := by
  obtain ⟨e, he, hvalue⟩ := foldlM_addBook_of_exact h
  refine ⟨e, he, ?_⟩
  rw [hvalue, inOrder, ((order.perm l.books).map Book.worth).sum_eq]

theorem unrealizedExact_of_mem {total : Decimal} {books : List Book}
    (h : AddBooksExact total books) {b : Book} (hb : b ∈ books) : b.UnrealizedExact := by
  induction books generalizing total with
  | nil => cases hb
  | cons first rest ih =>
    obtain ⟨hunrealized, hadd⟩ := h
    obtain ⟨subtotal, -, -, hadd⟩ := exactly_iff.1 hadd
    obtain ⟨valued, -, hadd⟩ := returns_iff.1 hadd
    obtain ⟨next, -, -, hrest⟩ := exactly_iff.1 hadd
    rcases List.mem_cons.1 hb with rfl | hb
    · exact hunrealized
    · exact ih hrest hb

/-! ### What an event does to the books -/

theorem raisePeak_fst (l : Ledger order) :
    l.raisePeak.1.books = l.books ∧ l.raisePeak.1.startingEquity = l.startingEquity := by
  rw [raisePeak]
  split
  · split <;> exact ⟨rfl, rfl⟩
  · exact ⟨rfl, rfl⟩

theorem addResult_fst (l : Ledger order) (result : Decimal) :
    (l.addResult result).1.books = l.books ∧
      (l.addResult result).1.startingEquity = l.startingEquity := by
  simp only [addResult]
  split
  · exact ⟨rfl, rfl⟩
  · split
    · exact ⟨rfl, rfl⟩
    · exact raisePeak_fst _

/-- A fill that is booked exactly changes the book of its symbol and no other. -/
theorem fill_of_exact {l : Ledger order} {symbol : String} {isBuy : Bool} {quantity : UInt32}
    {price point : Decimal} (hquantity : quantity ≠ 0)
    (h : l.EventExact (.fill symbol isBuy quantity price point)) :
    ∃ b result, Book.Filled (l.book symbol) (Book.signedQuantity isBuy quantity) price point b result ∧
      (l.fill symbol isBuy quantity price point).1.books =
        l.books.put (symbolKey symbol) { b with mark := some price } ∧
      (l.fill symbol isBuy quantity price point).1.startingEquity = l.startingEquity := by
  obtain ⟨b, result, happly, hfilled⟩ := Book.apply_of_exact hquantity (h hquantity).1
  obtain ⟨hbooks, hstart⟩ := addResult_fst
    { l with books := l.books.put (symbolKey symbol) { b with mark := some price } } result
  refine ⟨b, result, hfilled, ?_, ?_⟩
  · simp only [fill, hquantity, if_false, happly]
    exact hbooks
  · simp only [fill, hquantity, if_false, happly]
    exact hstart

theorem mark_of_book {l : Ledger order} {symbol : String} {b : Book} (price : Decimal)
    (h : l.books.get? (symbolKey symbol) = some b) :
    (l.mark symbol price).1.books =
        l.books.put (symbolKey symbol) { b with mark := some price } ∧
      (l.mark symbol price).1.startingEquity = l.startingEquity := by
  simp only [mark, h]
  exact raisePeak_fst _

theorem mark_of_no_book {l : Ledger order} {symbol : String} (price : Decimal)
    (h : l.books.get? (symbolKey symbol) = none) : (l.mark symbol price).1 = l := by
  simp only [mark, h]

end Ledger
end EntryGate
