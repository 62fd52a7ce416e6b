import EntryGate.Proofs.ExactLedger
import EntryGate.Proofs.Recent
import EntryGate.Proofs.UnitPrices
import Mathlib.Algebra.BigOperators.Group.List.Basic
import Mathlib.Data.List.Induction
import Mathlib.Data.List.Infix

/-!
# The profit identity

What a ledger says about a symbol is determined by the fills and marks of that symbol: its position
is the sum of the signed fills, and its result, realized or not, is what the position is worth at
the last price less what the fills have cost.  How the fills were split into openings, closings and
turns does not matter.

The position is held in a word.  The word always is that of the sum, but a sum that is out of its
range is read as another number, and what is booked from then on is booked for that number.  So the
identity needs that the position has been in range all along.

* `Ledger.netQuantity`, `Ledger.netCost` and `Ledger.lastPrice` read a history of events;
* `Ledger.held_apply` is what one event does to the word of a position, `Ledger.held_run` the word
  after a history;
* `Ledger.Kept` is what holds of a symbol after a history.  `Ledger.kept_apply` is the step of one
  event, and `Ledger.kept_run` the history as a whole;
* `Ledger.profit_identity` is the identity, with its consequence for the equity: a fill changes it
  as a mark at the price of the fill does;
* `Ledger.identity_needs_contracts_and_range` shows that a fill of no contracts does not count as a
  price, and that a position does leave its range.
-/

namespace EntryGate

open Text

/-! ## Sums over a table -/

namespace Table

variable {κ ν : Type} [DecidableEq κ]

/-- Filing a value exchanges the amount of the old one for that of the new one. -/
theorem sum_replace (f : ν → ℚ) (key : κ) (value : ν) (es : List (κ × ν)) :
    ((replace key value es).map fun e => f e.2).sum + ((find? key es).map f).getD 0 =
      (es.map fun e => f e.2).sum + f value := by
  induction es with
  | nil => simp [replace, find?]
  | cons e rest ih =>
    obtain ⟨k, v⟩ := e
    by_cases hk : k = key
    · simp only [replace, find?, hk, if_true, List.map_cons, List.sum_cons, Option.map_some,
        Option.getD_some]
      ring
    · simp only [replace, find?, hk, if_false, List.map_cons, List.sum_cons]
      rw [add_assoc, ih, add_assoc]

theorem sum_values_put (f : ν → ℚ) (t : Table κ ν) (key : κ) (value : ν) :
    ((t.put key value).values.map f).sum + ((t.get? key).map f).getD 0 =
      (t.values.map f).sum + f value := by
  simpa only [values, put, get?, List.map_map, Function.comp_def]
    using sum_replace f key value t.entries

end Table

/-! ## Reading a history -/

namespace LedgerEvent

/-- The contracts that an event adds to the position under a key. -/
def contracts (key : String) : LedgerEvent → Int
  | .fill symbol isBuy quantity _ _ =>
    if symbolKey symbol = key then Book.signedQuantity isBuy quantity else 0
  | .mark _ _ | .resetDay | .resetWeek => 0

/-- What these contracts cost, per point. -/
def cost (key : String) : LedgerEvent → ℚ
  | .fill symbol isBuy quantity price _ =>
    if symbolKey symbol = key then Book.signedQuantity isBuy quantity * price.value else 0
  | .mark _ _ | .resetDay | .resetWeek => 0

/-- The price that an event brings for a key.  A fill of no contracts brings none. -/
def price? (key : String) : LedgerEvent → Option Decimal
  | .fill symbol _ quantity price _ =>
    if symbolKey symbol = key ∧ quantity ≠ 0 then some price else none
  | .mark symbol price => if symbolKey symbol = key then some price else none
  | .resetDay | .resetWeek => none

/-- A fill of some contracts has the point value that belongs to its key. -/
def PointValue (v : String → ℚ) : LedgerEvent → Prop
  | .fill symbol _ quantity _ point => quantity ≠ 0 → point.value = v (symbolKey symbol)
  | .mark _ _ | .resetDay | .resetWeek => True

instance (v : String → ℚ) : (e : LedgerEvent) → Decidable (e.PointValue v)
  | .fill symbol _ quantity _ point =>
    inferInstanceAs (Decidable (quantity ≠ 0 → point.value = v (symbolKey symbol)))
  | .mark _ _ | .resetDay | .resetWeek => inferInstanceAs (Decidable True)

end LedgerEvent

namespace Ledger

variable {order : BookOrder}

def netQuantity (key : String) (events : List LedgerEvent) : Int :=
  (events.map (·.contracts key)).sum

def netCost (key : String) (events : List LedgerEvent) : ℚ :=
  (events.map (·.cost key)).sum

/-- The last price of a key, zero if there was none. -/
def lastPrice (key : String) (events : List LedgerEvent) : Decimal :=
  latest (·.price? key) .zero events

section History

variable (key : String) (events : List LedgerEvent) (e : LedgerEvent)

theorem netQuantity_append :
    netQuantity key (events ++ [e]) = netQuantity key events + e.contracts key := by
  simp [netQuantity]

theorem netCost_append : netCost key (events ++ [e]) = netCost key events + e.cost key := by
  simp [netCost]

theorem lastPrice_append :
    lastPrice key (events ++ [e]) = (e.price? key).getD (lastPrice key events) :=
  latest_append _ _ events e

end History

/-! ## Positions -/

theorem book_of_some {l : Ledger order} {symbol : String} {b : Book}
    (h : l.books.get? (symbolKey symbol) = some b) : l.book symbol = b := by
  rw [book, h, Option.getD_some]

theorem book_of_none {l : Ledger order} {symbol : String}
    (h : l.books.get? (symbolKey symbol) = none) : l.book symbol = .empty := by
  rw [book, h, Option.getD_none]

/-- The book of a symbol after one under some key was filed. -/
theorem book_of_put {l l' : Ledger order} {key : String} {b : Book}
    (h : l'.books = l.books.put key b) (symbol : String) :
    l'.book symbol = if key = symbolKey symbol then b else l.book symbol := by
  rw [book, h, Table.get?_put]
  split
  · rfl
  · rfl

theorem book_congr {symbol other : String} (h : symbolKey symbol = symbolKey other)
    (l : Ledger order) : l.book symbol = l.book other := by
  rw [book, book, h]

/-- A fill of no contracts is not booked. -/
theorem fill_zero (l : Ledger order) (symbol : String) (isBuy : Bool) (price point : Decimal) :
    l.fill symbol isBuy 0 price point = (l, .ok ()) :=
  if_pos rfl

theorem signedQuantity_zero (isBuy : Bool) : Book.signedQuantity isBuy 0 = 0 := by
  cases isBuy <;> rfl

/-- What an event does to the word of a position. -/
theorem held_apply {l : Ledger order} {e : LedgerEvent} (hexact : l.EventExact e)
    (symbol : String) :
    ((l.apply e).1.book symbol).held =
      (l.book symbol).held + .ofInt (e.contracts (symbolKey symbol)) := by
  cases e with
  | fill other isBuy quantity price point =>
    rw [apply, LedgerEvent.contracts]
    by_cases hquantity : quantity = 0
    · rw [hquantity, fill_zero, signedQuantity_zero, ite_self]
      exact (Int64.add_zero _).symm
    · obtain ⟨b, result, hfilled, hbooks, -⟩ := fill_of_exact hquantity hexact
      rw [book_of_put hbooks]
      by_cases hkey : symbolKey other = symbolKey symbol
      · rw [if_pos hkey, if_pos hkey, ← book_congr hkey]
        exact hfilled.held
      · rw [if_neg hkey, if_neg hkey]
        exact (Int64.add_zero _).symm
  | mark other price =>
    rw [apply, LedgerEvent.contracts]
    refine Eq.trans ?_ (Int64.add_zero _).symm
    cases hb : l.books.get? (symbolKey other) with
    | none => rw [mark_of_no_book price hb]
    | some b =>
      rw [book_of_put (mark_of_book price hb).1]
      split
      · next hkey => rw [← book_congr hkey, book_of_some hb]
      · rfl
  | resetDay => exact (Int64.add_zero _).symm
  | resetWeek => exact (Int64.add_zero _).symm

/-- The word of a position is that of the sum of its fills, whatever the sums on the way were. -/
theorem held_run {start : Decimal} {events : List LedgerEvent}
    (hexact : RunExact (new order start) events) (symbol : String) :
    (((new order start).run events).book symbol).held =
      .ofInt (netQuantity (symbolKey symbol) events) := by
  induction events using List.reverseRecOn with
  | nil => rfl
  | append_singleton events e ih =>
    obtain ⟨hrun, hevent⟩ := runExact_append.1 hexact
    rw [run, List.foldl_append, netQuantity_append, Int64.ofInt_add, ← ih hrun]
    exact held_apply hevent symbol

/-- A sum of fills that is in range is the position. -/
theorem quantity_run {start : Decimal} {events : List LedgerEvent}
    (hexact : RunExact (new order start) events) {symbol : String}
    (hfits : Book.Fits (netQuantity (symbolKey symbol) events)) :
    (((new order start).run events).book symbol).quantity =
      netQuantity (symbolKey symbol) events := by
  have hread := @Book.toInt_add_of_fits 0 (netQuantity (symbolKey symbol) events)
  rw [Int64.toInt_zero, zero_add, Int64.zero_add] at hread
  rw [Book.quantity, held_run hexact]
  exact hread hfits

/-! ## The invariant -/

/-- What a history makes of the book under a key, also of the empty one that stands for no book. -/
structure KeptBook (v : ℚ) (key : String) (events : List LedgerEvent) (b : Book) : Prop where
  /-- Fills cost the price of the position, except for what they have realized. -/
  realized : b.realized.value = v * (netQuantity key events * b.avgPrice.value - netCost key events)
  flat : netQuantity key events = 0 → b.avgPrice = .zero

/-- What a history makes of a ledger, as far as one symbol is concerned. -/
structure Kept (v : ℚ) (symbol : String) (events : List LedgerEvent) (l : Ledger order) :
    Prop where
  book : KeptBook v (symbolKey symbol) events (l.book symbol)
  valued : ∀ b, l.books.get? (symbolKey symbol) = some b →
    b.mark = some (lastPrice (symbolKey symbol) events) ∧ b.pointValue.value = v
  equity : l.EquityExact

theorem kept_new (v : ℚ) (symbol : String) (start : Decimal) :
    Kept v symbol [] (new order start) where
  book := by
    have hbook : (new order start).book symbol = .empty := book_of_none rfl
    refine ⟨?_, fun _ => by rw [hbook]; rfl⟩
    simp [hbook, Book.empty, netCost, netQuantity]
  valued b h := by cases h
  equity := by
    rw [EquityExact, inOrder_new]
    trivial

section Steps

variable {v : ℚ} {symbol : String} {events : List LedgerEvent} {e : LedgerEvent}
  {l l' : Ledger order}

/-- An event that does not concern the symbol, and leaves its book alone, is not seen. -/
theorem Kept.of_silent (h : Kept v symbol events l)
    (hcontracts : e.contracts (symbolKey symbol) = 0)
    (hcost : e.cost (symbolKey symbol) = 0) (hprice : e.price? (symbolKey symbol) = none)
    (hget : l'.books.get? (symbolKey symbol) = l.books.get? (symbolKey symbol))
    (hequity : l'.EquityExact) : Kept v symbol (events ++ [e]) l' where
  book := by
    have hbook : l'.book symbol = l.book symbol := by rw [Ledger.book, Ledger.book, hget]
    obtain ⟨hrealized, hflat⟩ := h.book
    rw [hbook]
    refine ⟨?_, ?_⟩
    · rw [netQuantity_append, netCost_append, hcontracts, hcost, add_zero, add_zero, hrealized]
    · rw [netQuantity_append, hcontracts, add_zero]
      exact hflat
  valued b hb := by
    rw [lastPrice_append, hprice, Option.getD_none]
    exact h.valued b (hget ▸ hb)
  equity := hequity

/-- A new book of the symbol has to hold what the events of the symbol say. -/
theorem Kept.of_put {b : Book} (hbooks : l'.books = l.books.put (symbolKey symbol) b)
    (hequity : l'.EquityExact) (hbook : KeptBook v (symbolKey symbol) (events ++ [e]) b)
    (hvalued : b.mark = some (lastPrice (symbolKey symbol) (events ++ [e])) ∧
      b.pointValue.value = v) :
    Kept v symbol (events ++ [e]) l' where
  book := by
    rw [book_of_put hbooks, if_pos rfl]
    exact hbook
  valued b' hb' := by
    rw [hbooks, Table.get?_put, if_pos rfl] at hb'
    cases hb'
    exact hvalued
  equity := hequity

/-- A fill of the symbol. -/
theorem Kept.fill_own (h : Kept v symbol events l) {other : String} {isBuy : Bool}
    {quantity : UInt32} {price point : Decimal} (hkey : symbolKey other = symbolKey symbol)
    (hnone : quantity ≠ 0)
    (hquantity : (l.book symbol).quantity = netQuantity (symbolKey symbol) events)
    (hexact : l.EventExact (.fill other isBuy quantity price point)) (hpoint : point.value = v) :
    Kept v symbol (events ++ [.fill other isBuy quantity price point])
      (l.fill other isBuy quantity price point).1 := by
  obtain ⟨b, result, hfilled, hbooks, -⟩ := fill_of_exact hnone hexact
  rw [book_congr hkey] at hfilled
  rw [hkey] at hbooks
  have hcontracts : (LedgerEvent.fill other isBuy quantity price point).contracts
      (symbolKey symbol) = Book.signedQuantity isBuy quantity := by
    rw [LedgerEvent.contracts, if_pos hkey]
  have hcost : (LedgerEvent.fill other isBuy quantity price point).cost (symbolKey symbol) =
      Book.signedQuantity isBuy quantity * price.value := by
    rw [LedgerEvent.cost, if_pos hkey]
  have hresult := hfilled.result
  have hflat := hfilled.flat
  rw [hquantity] at hresult hflat
  refine Kept.of_put hbooks (hexact hnone).2.2 ⟨?_, ?_⟩ ⟨?_, ?_⟩
  · -- what the fill realizes makes up for the change of the cost of the position
    show b.realized.value = _ * (_ * b.avgPrice.value - _)
    rw [netQuantity_append, netCost_append, hcontracts, hcost, hfilled.realized, hresult,
      h.book.realized, hpoint]
    ring
  · rw [netQuantity_append, hcontracts]
    exact hflat
  · simp [lastPrice_append, LedgerEvent.price?, hnone, hkey]
  · show b.pointValue.value = _
    rw [hfilled.pointValue, hpoint]

theorem Kept.fill (h : Kept v symbol events l) {other : String} {isBuy : Bool} {quantity : UInt32}
    {price point : Decimal}
    (hquantity : (l.book symbol).quantity = netQuantity (symbolKey symbol) events)
    (hexact : l.EventExact (.fill other isBuy quantity price point))
    (hpoint : quantity ≠ 0 → symbolKey other = symbolKey symbol → point.value = v) :
    Kept v symbol (events ++ [.fill other isBuy quantity price point])
      (l.fill other isBuy quantity price point).1 := by
  by_cases hnone : quantity = 0
  · subst hnone
    rw [fill_zero]
    refine h.of_silent ?_ ?_ ?_ rfl h.equity
    · simp [LedgerEvent.contracts, signedQuantity_zero]
    · simp [LedgerEvent.cost, signedQuantity_zero]
    · simp [LedgerEvent.price?]
  · by_cases hkey : symbolKey other = symbolKey symbol
    · exact h.fill_own hkey hnone hquantity hexact (hpoint hnone hkey)
    · obtain ⟨b, result, -, hbooks, -⟩ := fill_of_exact hnone hexact
      refine h.of_silent ?_ ?_ ?_ ?_ (hexact hnone).2.2
      · simp [LedgerEvent.contracts, hkey]
      · simp [LedgerEvent.cost, hkey]
      · simp [LedgerEvent.price?, hkey]
      · rw [hbooks, Table.get?_put, if_neg hkey]

theorem Kept.mark (h : Kept v symbol events l) {other : String} {price : Decimal}
    (hexact : l.EventExact (.mark other price)) :
    Kept v symbol (events ++ [.mark other price]) (l.mark other price).1 := by
  have hcontracts : (LedgerEvent.mark other price).contracts (symbolKey symbol) = 0 := rfl
  have hcost : (LedgerEvent.mark other price).cost (symbolKey symbol) = 0 := rfl
  have hsilent : symbolKey other ≠ symbolKey symbol →
      (LedgerEvent.mark other price).price? (symbolKey symbol) = none := by
    intro hkey
    rw [LedgerEvent.price?, if_neg hkey]
  cases hb : l.books.get? (symbolKey other) with
  | none =>
    rw [mark_of_no_book price hb]
    by_cases hkey : symbolKey other = symbolKey symbol
    · -- only the last price changes, and without a book it values nothing
      rw [hkey] at hb
      refine ⟨⟨?_, ?_⟩, ?_, h.equity⟩
      · rw [netQuantity_append, netCost_append, hcontracts, hcost, add_zero, add_zero]
        exact h.book.realized
      · rw [netQuantity_append, hcontracts, add_zero]
        exact h.book.flat
      · intro b hsome
        rw [hb] at hsome
        cases hsome
    · exact h.of_silent hcontracts hcost (hsilent hkey) rfl h.equity
  | some b =>
    obtain ⟨hbooks, -⟩ := mark_of_book price hb
    have hequity : (l.mark other price).1.EquityExact := hexact (by rw [hb]; rfl)
    by_cases hkey : symbolKey other = symbolKey symbol
    · rw [hkey] at hb hbooks
      obtain ⟨hrealized, hflat⟩ := h.book
      rw [book_of_some hb] at hrealized hflat
      refine Kept.of_put hbooks hequity ⟨?_, ?_⟩ ⟨?_, (h.valued b hb).2⟩
      · rw [netQuantity_append, netCost_append, hcontracts, hcost, add_zero, add_zero]
        exact hrealized
      · rw [netQuantity_append, hcontracts, add_zero]
        exact hflat
      · simp [lastPrice_append, LedgerEvent.price?, hkey]
    · refine h.of_silent hcontracts hcost (hsilent hkey) ?_ hequity
      rw [hbooks, Table.get?_put, if_neg hkey]

end Steps

/-- What holds after a history holds after one more event. -/
theorem kept_apply {v : String → ℚ} {symbol : String} {events : List LedgerEvent}
    {l : Ledger order} {e : LedgerEvent} (h : Kept (v (symbolKey symbol)) symbol events l)
    (hquantity : (l.book symbol).quantity = netQuantity (symbolKey symbol) events)
    (hexact : l.EventExact e) (hpoint : e.PointValue v) :
    Kept (v (symbolKey symbol)) symbol (events ++ [e]) (l.apply e).1 := by
  cases e with
  | fill other isBuy quantity price point =>
    exact h.fill hquantity hexact fun hnone hkey => hkey ▸ hpoint hnone
  | mark other price => exact h.mark hexact
  | resetDay => exact h.of_silent rfl rfl rfl rfl h.equity
  | resetWeek => exact h.of_silent rfl rfl rfl rfl h.equity

theorem kept_run {v : String → ℚ} {start : Decimal} {symbol : String} {events : List LedgerEvent}
    (hexact : RunExact (new order start) events) (hpoint : ∀ e ∈ events, e.PointValue v)
    (hfits : ∀ done, done <+: events → Book.Fits (netQuantity (symbolKey symbol) done)) :
    Kept (v (symbolKey symbol)) symbol events ((new order start).run events) := by
  -- from the end, since the readings of a history change with its last event
  induction events using List.reverseRecOn with
  | nil => exact kept_new _ symbol start
  | append_singleton events e ih =>
    obtain ⟨hrun, hevent⟩ := runExact_append.1 hexact
    have hbefore : events <+: events ++ [e] := List.prefix_append events [e]
    have hkept := ih hrun (fun other hother => hpoint other (List.mem_append_left _ hother))
      fun done hdone => hfits done (hdone.trans hbefore)
    have hstep := kept_apply hkept (quantity_run hrun (hfits events hbefore)) hevent
      (hpoint e (by simp))
    rwa [run, List.foldl_append]

/-! ## Results -/

section Results

variable {v : ℚ} {symbol : String} {events : List LedgerEvent} {l l' : Ledger order}

theorem Kept.unrealizedExact (h : Kept v symbol events l) : (l.book symbol).UnrealizedExact := by
  cases hb : l.books.get? (symbolKey symbol) with
  | none =>
    rw [book_of_none hb]
    intro mark hmark
    cases hmark
  | some b =>
    rw [book_of_some hb]
    have hmem : b ∈ l.inOrder := (order.perm l.books).mem_iff.2 (Table.mem_values_of_get? hb)
    exact unrealizedExact_of_mem h.equity hmem

/-- The worth of a book at the last price, less what its fills have cost. -/
theorem Kept.worth (h : Kept v symbol events l)
    (hquantity : (l.book symbol).quantity = netQuantity (symbolKey symbol) events) :
    (l.book symbol).worth = v *
      (netQuantity (symbolKey symbol) events * (lastPrice (symbolKey symbol) events).value
        - netCost (symbolKey symbol) events) := by
  rw [Book.worth, h.book.realized, Book.valuation, hquantity]
  cases hb : l.books.get? (symbolKey symbol) with
  | none =>
    rw [book_of_none hb] at hquantity ⊢
    rw [← hquantity]
    simp [Book.empty, Book.quantity]
  | some b =>
    obtain ⟨hmark, hpoint⟩ := h.valued b hb
    rw [book_of_some hb, hmark, hpoint]
    ring

theorem map_worth_getD (l : Ledger order) (symbol : String) :
    ((l.books.get? (symbolKey symbol)).map Book.worth).getD 0 = (l.book symbol).worth := by
  cases hb : l.books.get? (symbolKey symbol) with
  | none => simp [book_of_none hb, Book.worth, Book.valuation, Book.empty]
  | some b => simp [book_of_some hb]

/-- The equity after a new book under one key. -/
theorem Kept.equity_put (h : Kept v symbol events l) {b : Book} (hexact : l'.EquityExact)
    (hbooks : l'.books = l.books.put (symbolKey symbol) b)
    (hstart : l'.startingEquity = l.startingEquity) :
    ∃ before after, l.equity = .ok before ∧ l'.equity = .ok after ∧
      after.value - before.value = b.worth - (l.book symbol).worth := by
  obtain ⟨before, hbefore, hbeforev⟩ := equity_of_exact h.equity
  obtain ⟨after, hafter, hafterv⟩ := equity_of_exact hexact
  refine ⟨before, after, hbefore, hafter, ?_⟩
  have hsum := Table.sum_values_put Book.worth l.books (symbolKey symbol) b
  rw [map_worth_getD] at hsum
  rw [hafterv, hbeforev, hbooks, hstart]
  linarith

/-- A fill changes the equity by what the position before it gains at the price of the fill. -/
theorem Kept.equity_fill (h : Kept v symbol events l) {isBuy : Bool} {quantity : UInt32}
    {price point : Decimal} (hquantity : quantity ≠ 0) (hpoint : point.value = v)
    (hfits : Book.Fits ((l.book symbol).quantity + Book.signedQuantity isBuy quantity))
    (hexact : l.EventExact (.fill symbol isBuy quantity price point)) :
    ∃ before after, l.equity = .ok before ∧
      (l.fill symbol isBuy quantity price point).1.equity = .ok after ∧
      after.value - before.value =
        v * ((l.book symbol).quantity * (price.value - (l.book symbol).avgPrice.value))
          - (l.book symbol).valuation := by
  obtain ⟨b, result, hfilled, hbooks, hstart⟩ := fill_of_exact hquantity hexact
  obtain ⟨before, after, hbefore, hafter, hdiff⟩ :=
    h.equity_put (hexact hquantity).2.2 hbooks hstart
  refine ⟨before, after, hbefore, hafter, ?_⟩
  rw [hdiff, Book.worth_marked, Book.worth, hfilled.realized, hfilled.result, hfilled.pointValue,
    hpoint, hfilled.quantity hfits]
  push_cast
  ring

/-- A mark changes the equity by what the position gains at the price of the mark. -/
theorem Kept.equity_mark (h : Kept v symbol events l) {price : Decimal}
    (hexact : l.EventExact (.mark symbol price)) :
    ∃ before after, l.equity = .ok before ∧ (l.mark symbol price).1.equity = .ok after ∧
      after.value - before.value =
        v * ((l.book symbol).quantity * (price.value - (l.book symbol).avgPrice.value))
          - (l.book symbol).valuation := by
  cases hb : l.books.get? (symbolKey symbol) with
  | none =>
    obtain ⟨before, hbefore, -⟩ := equity_of_exact h.equity
    rw [mark_of_no_book price hb]
    refine ⟨before, before, hbefore, hbefore, ?_⟩
    simp [book_of_none hb, Book.empty, Book.valuation, Book.quantity]
  | some b =>
    obtain ⟨hbooks, hstart⟩ := mark_of_book price hb
    obtain ⟨before, after, hbefore, hafter, hdiff⟩ :=
      h.equity_put (hexact (by rw [hb]; rfl)) hbooks hstart
    refine ⟨before, after, hbefore, hafter, ?_⟩
    rw [hdiff, Book.worth_marked, book_of_some hb, Book.worth, (h.valued b hb).2]
    ring

end Results

/-- After a history that is booked exactly, with one point value for each key, in which the position
of a symbol stays in the range of its word, this position is the sum of the fills, a flat one has no
price, and the result is the worth of the position at the last price less the cost of the fills.  So
a fill that stays in the range as well changes the equity as a mark at its price does. -/
theorem profit_identity (order : BookOrder) (v : String → ℚ) (start : Decimal)
    (events : List LedgerEvent) (symbol : String) (hexact : RunExact (new order start) events)
    (hpoint : ∀ e ∈ events, e.PointValue v)
    (hfits : ∀ done, done <+: events → Book.Fits (netQuantity (symbolKey symbol) done)) :
    let l := (new order start).run events
    let q := netQuantity (symbolKey symbol) events
    l.position symbol = q ∧
      (q = 0 → l.avgPrice symbol = .zero ∧ (l.book symbol).avgPrice = .zero) ∧
      (∃ u, l.unrealized symbol = .ok u ∧
        (l.realized symbol).value + u.value = v (symbolKey symbol) *
          (q * (lastPrice (symbolKey symbol) events).value - netCost (symbolKey symbol) events)) ∧
      ∀ isBuy quantity price point, quantity ≠ 0 → point.value = v (symbolKey symbol) →
        Book.Fits (q + Book.signedQuantity isBuy quantity) →
        l.EventExact (.fill symbol isBuy quantity price point) →
        l.EventExact (.mark symbol price) →
        ∃ before filled marked, l.equity = .ok before ∧
          (l.fill symbol isBuy quantity price point).1.equity = .ok filled ∧
          (l.mark symbol price).1.equity = .ok marked ∧
          filled.value - before.value = marked.value - before.value := by
  intro l q
  have hkept : Kept (v (symbolKey symbol)) symbol events l := kept_run hexact hpoint hfits
  have hquantity : (l.book symbol).quantity = q :=
    quantity_run hexact (hfits events List.prefix_rfl)
  refine ⟨hquantity, ?_, ?_, ?_⟩
  · intro hq
    exact ⟨if_pos (hquantity.trans hq), hkept.book.flat hq⟩
  · obtain ⟨u, hu, huv⟩ := Book.unrealized_of_exact hkept.unrealizedExact
    refine ⟨u, hu, ?_⟩
    rw [huv]
    exact hkept.worth hquantity
  · intro isBuy quantity price point hne hvalue hrange hfill hmark
    rw [← hquantity] at hrange
    obtain ⟨before, filled, hbefore, hfilled, hfilledv⟩ := hkept.equity_fill hne hvalue hrange hfill
    obtain ⟨before', marked, hbefore', hmarked, hmarkedv⟩ := hkept.equity_mark hmark
    have hsame : before' = before := by
      rw [hbefore] at hbefore'
      cases hbefore'
      rfl
    subst hsame
    exact ⟨before', filled, marked, hbefore, hfilled, hmarked, hfilledv.trans hmarkedv.symm⟩

/-- A long position that is built up, marked and turned into a short one, beside a position in
another symbol.  Four contracts bought for 420 and five sold at 107 leave one short at a cost of
-115, and the result is 8 points of 50 each. -/
theorem profit_identity_of_turn :
    let start : Decimal := .whole false 1000 (by decide)
    let events : List LedgerEvent :=
      [ .fill "ES" true 2 (.whole false 100 (by decide)) (.whole false 50 (by decide)),
        .fill "es" true 2 (.whole false 110 (by decide)) (.whole false 50 (by decide)),
        .mark "ES" (.whole false 104 (by decide)),
        .fill "NQ" false 1 (.whole false 200 (by decide)) (.whole false 20 (by decide)),
        .fill "ES" false 5 (.whole false 107 (by decide)) (.whole false 50 (by decide)) ]
    let l := (new .opened start).run events
    l.position "ES" = -1 ∧
      (∃ u, l.unrealized "ES" = .ok u ∧ (l.realized "ES").value + u.value = 50 * (-1 * 107 - -115)) ∧
      ∃ before filled marked, l.equity = .ok before ∧
        (l.fill "ES" true 1 (.whole false 99 (by decide)) (.whole false 50 (by decide))).1.equity =
          .ok filled ∧
        (l.mark "ES" (.whole false 99 (by decide))).1.equity = .ok marked ∧
        filled.value - before.value = marked.value - before.value := by
  intro start events l
  let v : String → ℚ := fun key => if key = "ES" then 50 else 20
  have hexact : RunExact (new .opened start) events := by decide +kernel
  have hpoint : ∀ e ∈ events, e.PointValue v := by decide +kernel
  have hq : netQuantity (symbolKey "ES") events = -1 := by decide +kernel
  have hcost : netCost (symbolKey "ES") events = -115 := by decide +kernel
  have hprice : (lastPrice (symbolKey "ES") events).value = 107 := by decide +kernel
  have hv : v (symbolKey "ES") = 50 := by decide +kernel
  have hrange : ∀ done ∈ events.inits, Book.Fits (netQuantity (symbolKey "ES") done) := by
    decide +kernel
  obtain ⟨hposition, -, hresult, hequity⟩ :=
    profit_identity .opened v start events "ES" hexact hpoint
      fun done hdone => hrange done ((List.mem_inits done events).2 hdone)
  rw [hq, hcost, hprice, hv] at hresult
  refine ⟨hposition.trans hq, by simpa using hresult, ?_⟩
  exact hequity true 1 _ _ (by decide) (by decide +kernel) (by rw [hq]; decide +kernel)
    (by decide +kernel) (by decide +kernel)

theorem netQuantity_replicate (key : String) (n : Nat) (e : LedgerEvent) :
    netQuantity key (List.replicate n e) = n * e.contracts key := by
  rw [netQuantity, List.map_replicate, List.sum_replicate, nsmul_eq_mul]

/-- A position that is only ever added to, at a price of 1, goes around with its word. -/
theorem position_of_buys (order : BookOrder) (start : Decimal) (symbol : String) (n : Nat)
    (quantity : UInt32) :
    let events := List.replicate n (.fill symbol true quantity .one .one)
    RunExact (new order start) events ∧
      ((new order start).run events).position symbol =
        ((n : Int) * quantity.toNat).bmod Int64.size := by
  intro events
  have hexact : RunExact (new order start) events := by
    apply runExact_of_unit_prices
    intro e he
    rw [List.eq_of_mem_replicate he]
    exact Decimal.value_one
  refine ⟨hexact, ?_⟩
  have hcontracts : (LedgerEvent.fill symbol true quantity .one .one).contracts (symbolKey symbol) =
      quantity.toNat := by
    rw [LedgerEvent.contracts, if_pos rfl, Book.signedQuantity, if_pos rfl]
  rw [position, Book.quantity, held_run hexact, netQuantity_replicate, hcontracts,
    Int64.toInt_ofInt]

/-- What the identity cannot do without.  A fill of no contracts brings no price: two contracts
bought at 100 have no result after an empty fill at 110, and the equity stays what it was, which a
mark at 110 would change.  And 2147483649 times 4294967295 contracts bought at 1, where nothing is
rounded, end up as a short position. -/
theorem identity_needs_contracts_and_range :
    let start : Decimal := .whole false 1000 (by decide)
    let price : Decimal := .whole false 110 (by decide)
    let l := (new .opened start).run [.fill "ES" true 2 (.whole false 100 (by decide)) .one]
    let filled := (l.fill "ES" true 0 price .one).1
    let buys : List LedgerEvent :=
      List.replicate 2147483649 (.fill "ES" true 4294967295 .one .one)
    (filled.unrealized "ES" = .ok .zero ∧
        (filled.realized "ES").value + Decimal.zero.value ≠
          Decimal.one.value * (filled.position "ES" * price.value - (2 * 100 + 0 * price.value)) ∧
        filled.equity = l.equity ∧
        (l.mark "ES" price).1.equity ≠ l.equity) ∧
      RunExact (new .opened start) buys ∧ (∀ e ∈ buys, e.PointValue fun _ => 1) ∧
      netQuantity (symbolKey "ES") buys = 9223372039002259455 ∧
      ((new .opened start).run buys).position "ES" = -9223372034707292161 := by
  intro start price l filled buys
  obtain ⟨hexact, hposition⟩ := position_of_buys .opened start "ES" 2147483649 4294967295
  refine ⟨by decide +kernel, hexact, ?_, ?_, ?_⟩
  · intro e he
    rw [List.eq_of_mem_replicate he]
    exact fun _ => Decimal.value_one
  · rw [netQuantity_replicate]
    decide +kernel
  · rw [hposition]
    decide +kernel

end Ledger
end EntryGate
