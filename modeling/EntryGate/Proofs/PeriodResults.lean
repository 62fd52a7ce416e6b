import EntryGate.Proofs.HighWaterMark
import EntryGate.Proofs.InterruptedFill
import EntryGate.Proofs.ProfitIdentity

/-!
# Results by day and by week

A fill realizes one result, and a ledger adds it in three places: to the book of the symbol, to the
day and to the week.  A new day clears the first of the two periods and a new week clears both, but
neither touches the books.  So each period holds the results since it was opened, and what the books
hold beyond the week is what was realized before it.

* `Book.profit` is the result of a fill as a number, read off the position before it;
* `Ledger.SumsExact` says that a fill adds its result exactly in all three places, and
  `Ledger.fill_adds` what the sums are then;
* `Ledger.results` is a history in which every event has the result that it realized.
  `Ledger.Balanced` compares it with the sums of a ledger: `Ledger.Balanced.apply` is the step of one
  event, and `Ledger.balanced_run` the history as a whole;
* `Ledger.period_results` is the result.
-/

namespace EntryGate

open Decimal Text

/-! ## The result of a fill -/

namespace Book

/-- The contracts of the position that a fill closes, negative for a short position. -/
def closed (b : Book) (signed : Int) : Int :=
  if 0 < b.quantity then min b.quantity (max 0 (-signed)) else max b.quantity (min 0 (-signed))

/-- What the contracts that a fill closes have gained since they were opened. -/
def profit (b : Book) (signed : Int) (price point : Decimal) : ℚ :=
  b.closed signed * (price.value - b.avgPrice.value) * point.value

/-- A fill on the side of the position closes nothing. -/
theorem closed_of_adds {b : Book} {signed : Int} (h : b.adds signed = true) :
    b.closed signed = 0 := by
  rw [adds, decide_eq_true_eq] at h
  rw [closed]
  split <;> omega

/-- No contracts close nothing. -/
theorem closed_zero (b : Book) : b.closed 0 = 0 := by
  rw [closed]
  split <;> omega

/-- A fill against the position closes as many contracts as both of them have. -/
theorem closed_of_not_adds {b : Book} {isBuy : Bool} {quantity : UInt32} (hquantity : quantity ≠ 0)
    (h : b.adds (signedQuantity isBuy quantity) = false) :
    b.closed (signedQuantity isBuy quantity) =
      if b.quantity < 0 then -((min b.quantity.natAbs quantity.toNat : Nat) : Int)
      else (min b.quantity.natAbs quantity.toNat : Nat) := by
  rw [closed]
  rcases opposite_of_not_adds hquantity h with ⟨hlong, hsigned⟩ | ⟨hshort, hsigned⟩
  · rw [if_pos hlong, if_neg (by omega), hsigned]
    omega
  · rw [if_neg (by omega), if_pos hshort, hsigned]
    omega

/-- What a fill gives as its result. -/
theorem apply_snd (b : Book) (isBuy : Bool) (quantity : UInt32) (price point : Decimal) :
    (b.apply isBuy quantity price point).2 =
      if b.adds (signedQuantity isBuy quantity) then
        (b.averagePrice quantity price).map fun _ => .zero
      else do
        let result ← b.closingResult (min b.quantity.natAbs quantity.toNat) price point
        let _ ← b.realized.add result
        return result := by
  have hadds : Book.adds { b with pointValue := point } (signedQuantity isBuy quantity) =
      b.adds (signedQuantity isBuy quantity) := rfl
  simp only [apply, hadds]
  by_cases hside : b.adds (signedQuantity isBuy quantity) = true
  · have haverage : Book.averagePrice { b with pointValue := point } quantity price =
        b.averagePrice quantity price := rfl
    rw [if_pos hside, if_pos hside, haverage]
    cases b.averagePrice quantity price <;> rfl
  · have hclosing : Book.closingResult { b with pointValue := point }
          (min (Book.quantity { b with pointValue := point }).natAbs quantity.toNat) price point =
        b.closingResult (min b.quantity.natAbs quantity.toNat) price point := rfl
    rw [if_neg hside, if_neg hside, hclosing]
    cases b.closingResult (min b.quantity.natAbs quantity.toNat) price point with
    | error fault => rfl
    | ok result =>
      simp only [bind, Except.bind]
      cases b.realized.add result <;> rfl

/-- The result of a fill that is booked exactly is its profit. -/
theorem result_of_exact {b : Book} {isBuy : Bool} {quantity : UInt32} {price point result : Decimal}
    (hquantity : quantity ≠ 0) (h : b.FillExact isBuy quantity price point)
    (hresult : (b.apply isBuy quantity price point).2 = .ok result) :
    result.value = b.profit (signedQuantity isBuy quantity) price point := by
  rw [apply_snd] at hresult
  rw [profit]
  cases hside : b.adds (signedQuantity isBuy quantity) with
  | true =>
    -- whatever the average is, nothing is realized
    rw [if_pos hside] at hresult
    rw [closed_of_adds hside]
    cases haverage : b.averagePrice quantity price with
    | error fault =>
      rw [haverage] at hresult
      cases hresult
    | ok average =>
      rw [haverage] at hresult
      cases hresult
      simp
  | false =>
    rw [FillExact, if_neg (by simp [hside])] at h
    obtain ⟨closing, realized, hclosing, hadd, -, hvalue⟩ := closingResult_of_exact h
    rw [if_neg (by simp [hside])] at hresult
    simp only [hclosing, hadd, bind, Except.bind, pure, Except.pure] at hresult
    cases hresult
    rw [hvalue, closed_of_not_adds hquantity hside]
    split
    · rw [Int.cast_neg, Int.cast_natCast]
      ring
    · rw [Int.cast_natCast]
      ring

end Book

/-! ## Three sums -/

namespace LedgerEvent

/-- Whether the event opens a new week. -/
def opensWeek : LedgerEvent → Bool
  | .resetWeek => true
  | .fill _ _ _ _ _ | .mark _ _ | .resetDay => false

/-- Whether the event opens a new day.  A new week is also a new day. -/
def opensDay : LedgerEvent → Bool
  | .resetDay | .resetWeek => true
  | .fill _ _ _ _ _ | .mark _ _ => false

/-- Whether the event is a fill. -/
def isFill : LedgerEvent → Bool
  | .fill _ _ _ _ _ => true
  | .mark _ _ | .resetDay | .resetWeek => false

end LedgerEvent

namespace Ledger

variable {order : BookOrder}

/-- What all books have realized. -/
def realizedTotal (l : Ledger order) : ℚ :=
  (l.books.values.map fun b => b.realized.value).sum

/-- The result of a fill is added without rounding and without a fault: in its book, to the day and to
the week. -/
def SumsExact (l : Ledger order) : LedgerEvent → Prop
  | .fill symbol isBuy quantity price point =>
    quantity ≠ 0 →
      Returns ((l.book symbol).apply isBuy quantity price point).2 fun result =>
        ((l.book symbol).apply isBuy quantity price point).1.realized.value =
            (l.book symbol).realized.value + result.value ∧
          l.ResultExact result
  | .mark _ _ | .resetDay | .resetWeek => True

instance (l : Ledger order) : (e : LedgerEvent) → Decidable (l.SumsExact e)
  | .fill symbol isBuy quantity price point =>
    inferInstanceAs (Decidable (quantity ≠ 0 →
      Returns ((l.book symbol).apply isBuy quantity price point).2 fun result =>
        ((l.book symbol).apply isBuy quantity price point).1.realized.value =
            (l.book symbol).realized.value + result.value ∧
          l.ResultExact result))
  | .mark _ _ | .resetDay | .resetWeek => inferInstanceAs (Decidable True)

/-- An event without any rounding adds its result exactly. -/
theorem sumsExact_of_exact {l : Ledger order} {e : LedgerEvent} (h : l.EventExact e) :
    l.SumsExact e := by
  cases e with
  | fill symbol isBuy quantity price point =>
    intro hquantity
    obtain ⟨hfill, hresults, -⟩ := h hquantity
    obtain ⟨b, result, happly, hfilled⟩ := Book.apply_of_exact hquantity hfill
    rw [happly] at hresults ⊢
    exact ⟨hfilled.realized, hresults⟩
  | mark symbol price => trivial
  | resetDay => trivial
  | resetWeek => trivial

theorem raisePeak_periods (l : Ledger order) :
    l.raisePeak.1.dailyPnl = l.dailyPnl ∧ l.raisePeak.1.weeklyPnl = l.weeklyPnl := by
  rw [raisePeak]
  split
  · split <;> exact ⟨rfl, rfl⟩
  · exact ⟨rfl, rfl⟩

/-- What a result adds to the two periods. -/
theorem addResult_periods {l : Ledger order} {result : Decimal} (h : l.ResultExact result) :
    (l.addResult result).1.dailyPnl.value = l.dailyPnl.value + result.value ∧
      (l.addResult result).1.weeklyPnl.value = l.weeklyPnl.value + result.value := by
  obtain ⟨hday, hweek⟩ := h
  obtain ⟨daily, hdaily, hdailyv, -⟩ := exactly_iff.1 hday
  obtain ⟨weekly, hweekly, hweeklyv, -⟩ := exactly_iff.1 hweek
  simp only [addResult, hdaily, hweekly]
  obtain ⟨hd, hw⟩ := raisePeak_periods { l with dailyPnl := daily, weeklyPnl := weekly }
  rw [hd, hw]
  exact ⟨hdailyv, hweeklyv⟩

/-- A new book under one key changes the total by what it has realized more than the old one. -/
theorem realizedTotal_put {l l' : Ledger order} {symbol : String} {b : Book}
    (h : l'.books = l.books.put (symbolKey symbol) b) :
    l'.realizedTotal = l.realizedTotal + (b.realized.value - (l.book symbol).realized.value) := by
  have hsum := Table.sum_values_put (fun b : Book => b.realized.value) l.books (symbolKey symbol) b
  have hbefore : ((l.books.get? (symbolKey symbol)).map fun b => b.realized.value).getD 0 =
      (l.book symbol).realized.value := by
    cases hb : l.books.get? (symbolKey symbol) with
    | none => simp [book_of_none hb, Book.empty]
    | some b => simp [book_of_some hb]
  rw [hbefore] at hsum
  rw [realizedTotal, realizedTotal, h]
  linarith

/-- A fill adds its result to both periods and to the books. -/
theorem fill_adds {l : Ledger order} {symbol : String} {isBuy : Bool} {quantity : UInt32}
    {price point : Decimal} (hquantity : quantity ≠ 0)
    (h : l.SumsExact (.fill symbol isBuy quantity price point)) :
    ∃ result, ((l.book symbol).apply isBuy quantity price point).2 = .ok result ∧
      let l' := (l.fill symbol isBuy quantity price point).1
      l'.dailyPnl.value = l.dailyPnl.value + result.value ∧
        l'.weeklyPnl.value = l.weeklyPnl.value + result.value ∧
        l'.realizedTotal = l.realizedTotal + result.value := by
  obtain ⟨result, hresult, hrealized, hperiods⟩ := returns_iff.1 (h hquantity)
  refine ⟨result, hresult, ?_⟩
  rcases happly : (l.book symbol).apply isBuy quantity price point with ⟨b, answer⟩
  rw [happly] at hresult hrealized
  cases hresult
  have hfill : l.fill symbol isBuy quantity price point =
      (l.booked symbol b price).addResult result := by
    simp only [fill, hquantity, if_false, happly, booked]
  obtain ⟨hdaily, hweekly⟩ := addResult_periods (l := l.booked symbol b price) hperiods
  -- the periods are added to after the book is filed, which does not touch it again
  obtain ⟨hbooks, -⟩ := addResult_fst (l.booked symbol b price) result
  have hput : ((l.booked symbol b price).addResult result).1.books =
      l.books.put (symbolKey symbol) _ := hbooks
  have htotal := realizedTotal_put hput
  rw [hfill]
  refine ⟨hdaily, hweekly, ?_⟩
  rw [htotal]
  have hsame : b.realized.value - (l.book symbol).realized.value = result.value := by
    rw [hrealized]
    ring
  rw [hsame]

/-- A mark adds nothing. -/
theorem mark_adds_nothing (l : Ledger order) (symbol : String) (price : Decimal) :
    (l.mark symbol price).1.dailyPnl = l.dailyPnl ∧
      (l.mark symbol price).1.weeklyPnl = l.weeklyPnl ∧
      (l.mark symbol price).1.realizedTotal = l.realizedTotal := by
  cases hb : l.books.get? (symbolKey symbol) with
  | none =>
    rw [mark_of_no_book price hb]
    exact ⟨rfl, rfl, rfl⟩
  | some b =>
    obtain ⟨hbooks, -⟩ := mark_of_book price hb
    have htotal := realizedTotal_put hbooks
    rw [book_of_some hb, sub_self, add_zero] at htotal
    refine ⟨?_, ?_, htotal⟩
    · simp only [mark, hb]
      exact (raisePeak_periods _).1
    · simp only [mark, hb]
      exact (raisePeak_periods _).2

/-- Only fills change what a book has realized, or a position. -/
theorem get?_of_not_fill (l : Ledger order) {e : LedgerEvent} (h : e.isFill = false) (key : String) :
    ((l.apply e).1.books.get? key).map (fun b => (b.realized, b.quantity)) =
      (l.books.get? key).map fun b => (b.realized, b.quantity) := by
  cases e with
  | fill symbol isBuy quantity price point => cases h
  | resetDay => rfl
  | resetWeek => rfl
  | mark symbol price =>
    rw [apply]
    cases hb : l.books.get? (symbolKey symbol) with
    | none => rw [mark_of_no_book price hb]
    | some b =>
      rw [(mark_of_book price hb).1, Table.get?_put]
      split
      · next hkey =>
        rw [← hkey, hb]
        rfl
      · rfl

/-! ## Histories with results -/

/-- The result that an event realizes. -/
def profit (l : Ledger order) : LedgerEvent → ℚ
  | .fill symbol isBuy quantity price point =>
    (l.book symbol).profit (Book.signedQuantity isBuy quantity) price point
  | .mark _ _ | .resetDay | .resetWeek => 0

/-- The events of a history, each with the result that it realized. -/
def results : Ledger order → List LedgerEvent → List (LedgerEvent × ℚ)
  | _, [] => []
  | l, e :: rest => (e, l.profit e) :: results (l.apply e).1 rest

/-- The sum of the results of some events. -/
def sumOf (past : List (LedgerEvent × ℚ)) : ℚ :=
  (past.map Prod.snd).sum

theorem results_append (l : Ledger order) (events : List LedgerEvent) (e : LedgerEvent) :
    l.results (events ++ [e]) = l.results events ++ [(e, (l.run events).profit e)] := by
  induction events generalizing l with
  | nil => rfl
  | cons first rest ih =>
    rw [List.cons_append, results, ih, results, List.cons_append]
    rfl

theorem sumOf_append (past more : List (LedgerEvent × ℚ)) :
    sumOf (past ++ more) = sumOf past + sumOf more := by
  rw [sumOf, List.map_append, List.sum_append, sumOf, sumOf]

theorem sumOf_singleton (e : LedgerEvent) (x : ℚ) : sumOf [(e, x)] = x := by
  simp [sumOf]

/-- The results since the last event of a kind, with one more event. -/
theorem sumOf_since_append (p : LedgerEvent × ℚ → Bool) (past : List (LedgerEvent × ℚ))
    (e : LedgerEvent) (x : ℚ) :
    sumOf (since p (past ++ [(e, x)])) = if p (e, x) then 0 else sumOf (since p past) + x := by
  rw [since_append]
  split
  · rfl
  · rw [sumOf_append, sumOf_singleton]

/-- The sums of a ledger are those of its past. -/
structure Balanced (past : List (LedgerEvent × ℚ)) (l : Ledger order) : Prop where
  weekly : l.weeklyPnl.value = sumOf (since (·.1.opensWeek) past)
  daily : l.dailyPnl.value = sumOf (since (·.1.opensDay) past)
  books : l.realizedTotal = sumOf past

theorem balanced_new (start : Decimal) : Balanced [] (new order start) :=
  ⟨value_zero, value_zero, rfl⟩

/-- An event that opens no period adds its result to all three sums. -/
theorem Balanced.of_adds {past : List (LedgerEvent × ℚ)} {l l' : Ledger order} (h : Balanced past l)
    {e : LedgerEvent} {x : ℚ} (hday : e.opensDay = false) (hweek : e.opensWeek = false)
    (hdaily : l'.dailyPnl.value = l.dailyPnl.value + x)
    (hweekly : l'.weeklyPnl.value = l.weeklyPnl.value + x)
    (hbooks : l'.realizedTotal = l.realizedTotal + x) : Balanced (past ++ [(e, x)]) l' where
  weekly := by
    rw [sumOf_since_append, if_neg (by simp [hweek]), hweekly, h.weekly]
  daily := by
    rw [sumOf_since_append, if_neg (by simp [hday]), hdaily, h.daily]
  books := by
    rw [sumOf_append, sumOf_singleton, hbooks, h.books]

/-- The sums stay those of the past with one more event. -/
theorem Balanced.apply {past : List (LedgerEvent × ℚ)} {l : Ledger order} (h : Balanced past l)
    {e : LedgerEvent} (hexact : l.EventExact e) :
    Balanced (past ++ [(e, l.profit e)]) (l.apply e).1 := by
  cases e with
  | fill symbol isBuy quantity price point =>
    by_cases hquantity : quantity = 0
    · -- a fill of no contracts is not booked, and closes nothing
      subst hquantity
      have hprofit : l.profit (.fill symbol isBuy 0 price point) = 0 := by
        cases isBuy <;> simp [profit, Book.profit, Book.signedQuantity, Book.closed_zero]
      rw [hprofit]
      exact h.of_adds rfl rfl (add_zero _).symm (add_zero _).symm (add_zero _).symm
    · obtain ⟨result, hresult, hdaily, hweekly, hbooks⟩ :=
        fill_adds hquantity (sumsExact_of_exact hexact)
      have hprofit : result.value = l.profit (.fill symbol isBuy quantity price point) :=
        Book.result_of_exact hquantity (hexact hquantity).1 hresult
      rw [← hprofit]
      exact h.of_adds rfl rfl hdaily hweekly hbooks
  | mark symbol price =>
    obtain ⟨hdaily, hweekly, hbooks⟩ := l.mark_adds_nothing symbol price
    refine h.of_adds rfl rfl ?_ ?_ ?_
    · rw [Ledger.apply, hdaily, profit, add_zero]
    · rw [Ledger.apply, hweekly, profit, add_zero]
    · rw [Ledger.apply, hbooks, profit, add_zero]
  | resetDay =>
    refine ⟨?_, ?_, ?_⟩
    · rw [sumOf_since_append, profit, add_zero]
      exact h.weekly
    · rw [sumOf_since_append]
      exact value_zero
    · rw [sumOf_append, sumOf_singleton, profit, add_zero]
      exact h.books
  | resetWeek =>
    refine ⟨?_, ?_, ?_⟩
    · rw [sumOf_since_append]
      exact value_zero
    · rw [sumOf_since_append]
      exact value_zero
    · rw [sumOf_append, sumOf_singleton, profit, add_zero]
      exact h.books

theorem balanced_run {start : Decimal} {events : List LedgerEvent}
    (hexact : RunExact (new order start) events) :
    Balanced (results (new order start) events) ((new order start).run events) := by
  -- from the end, since a period is what lies after the last event that opened it
  induction events using List.reverseRecOn with
  | nil => exact balanced_new start
  | append_singleton events e ih =>
    obtain ⟨hrun, hevent⟩ := runExact_append.1 hexact
    have hstep := (ih hrun).apply hevent
    rwa [results_append, run_append]

/-- After a history that is booked exactly, the week is the sum of what the fills have realized since
the last new week, and the day that since the last new day or week.  All books together have realized
what the week holds and what was realized before it.  Marks and new periods change neither what any
book has realized nor any position, in every ledger. -/
theorem period_results (order : BookOrder) (start : Decimal) (events : List LedgerEvent)
    (hexact : RunExact (new order start) events) :
    let l := (new order start).run events
    let past := results (new order start) events
    l.weeklyPnl.value = sumOf (since (·.1.opensWeek) past) ∧
      l.dailyPnl.value = sumOf (since (·.1.opensDay) past) ∧
      l.realizedTotal = l.weeklyPnl.value + sumOf (upTo (·.1.opensWeek) past) ∧
      ∀ (l : Ledger order) (e : LedgerEvent), e.isFill = false → ∀ key,
        ((l.apply e).1.books.get? key).map (fun b => (b.realized, b.quantity)) =
          (l.books.get? key).map fun b => (b.realized, b.quantity) := by
  intro l past
  obtain ⟨hweekly, hdaily, hbooks⟩ := balanced_run hexact
  refine ⟨hweekly, hdaily, ?_, fun l e he key => l.get?_of_not_fill he key⟩
  calc
    l.realizedTotal = sumOf past := hbooks
    _ = sumOf (upTo (·.1.opensWeek) past ++ since (·.1.opensWeek) past) := by
          rw [upTo_append_since]
    _ = sumOf (since (·.1.opensWeek) past) + sumOf (upTo (·.1.opensWeek) past) := by
          rw [sumOf_append, add_comm]
    _ = l.weeklyPnl.value + sumOf (upTo (·.1.opensWeek) past) := by rw [hweekly]

/-- A long position is built up at 105 and reduced at 107 before a new week, in which a short position
in another symbol is turned around with a gain of 5 points and the rest of the first one is sold with
a loss of one.  The new day between these two fills leaves the day with the loss alone. -/
theorem period_results_of_two_weeks :
    let start : Decimal := .whole false 1000 (by decide)
    let fifty : Decimal := .whole false 50 (by decide)
    let twenty : Decimal := .whole false 20 (by decide)
    let events : List LedgerEvent :=
      [ .fill "ES" true 2 (.whole false 100 (by decide)) fifty,
        .fill "es" true 2 (.whole false 110 (by decide)) fifty,
        .fill "NQ" false 1 (.whole false 200 (by decide)) twenty,
        .resetDay,
        .fill "ES" false 1 (.whole false 107 (by decide)) fifty,
        .resetWeek,
        .fill "NQ" true 2 (.whole false 195 (by decide)) twenty,
        .mark "ES" (.whole false 103 (by decide)),
        .resetDay,
        .fill "ES" false 3 (.whole false 104 (by decide)) fifty ]
    let l := (new .opened start).run events
    RunExact (new .opened start) events ∧ l.weeklyPnl.value = 5 * 20 - 3 * 50 ∧
      l.dailyPnl.value = -3 * 50 ∧ l.realizedTotal = (5 * 20 - 3 * 50) + 2 * 50 := by
  intro start fifty twenty events l
  have hexact : RunExact (new .opened start) events := by decide +kernel
  have hweek :
      sumOf (since (·.1.opensWeek) (results (new .opened start) events)) = 5 * 20 - 3 * 50 := by
    decide +kernel
  have hday : sumOf (since (·.1.opensDay) (results (new .opened start) events)) = -3 * 50 := by
    decide +kernel
  have hbefore : sumOf (upTo (·.1.opensWeek) (results (new .opened start) events)) = 2 * 50 := by
    decide +kernel
  obtain ⟨hweekly, hdaily, hbooks, -⟩ := period_results .opened start events hexact
  rw [hweek] at hweekly
  rw [hday] at hdaily
  rw [hbefore, hweekly] at hbooks
  exact ⟨hexact, hweekly, hdaily, hbooks⟩

end Ledger
end EntryGate
