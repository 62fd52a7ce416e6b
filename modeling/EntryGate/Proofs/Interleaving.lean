import EntryGate.Proofs.PeriodResults
import EntryGate.Proofs.TableEntries
import Mathlib.Algebra.BigOperators.Group.List.Lemmas

/-!
# Symbols do not see each other

An event reads and writes the book under its own key and no other book.  So the book under a key is
determined by the events of that key, in their order, however these are mixed with the events of
other keys and however the symbols are spelled.

The account as a whole adds up over all books.  Sums of decimals depend on the order of their terms as
soon as one of them rounds; without rounding they do not, and then two histories that differ in their
mixing only lead to the same account.  The highest equity is another matter, since it depends on the
equities on the way.

* `Ledger.concerning` is the part of a history that belongs to a key;
* `Ledger.after?` is what one event makes of a book.  `Ledger.books_apply` is all that an event does to
  the books, and `Ledger.get?_run` reads the book under a key off its own events;
* `Ledger.interleaving_independent` is the result.
-/

namespace EntryGate

open Decimal Text

/-- What a book shows as its result, realized or not. -/
def Book.shown (b : Book) : ℚ :=
  b.realized.value + (b.unrealized.toOption.map Decimal.value).getD 0

/-! ## The events of a key -/

namespace LedgerEvent

/-- The key that an event belongs to. -/
def key? : LedgerEvent → Option String
  | .fill symbol _ _ _ _ => some (symbolKey symbol)
  | .mark symbol _ => some (symbolKey symbol)
  | .resetDay | .resetWeek => none

/-- The event with another spelling of its symbol. -/
def respelled (symbol : String) : LedgerEvent → LedgerEvent
  | .fill _ isBuy quantity price point => .fill symbol isBuy quantity price point
  | .mark _ price => .mark symbol price
  | .resetDay => .resetDay
  | .resetWeek => .resetWeek

end LedgerEvent

namespace Ledger

variable {order : BookOrder}

/-- The events of a history that belong to a key, in one spelling. -/
def concerning (key : String) (events : List LedgerEvent) : List LedgerEvent :=
  (events.filter fun e => e.key? == some key).map (·.respelled key)

theorem concerning_eq_nil {key : String} {events : List LedgerEvent}
    (h : key ∉ events.filterMap LedgerEvent.key?) : concerning key events = [] := by
  rw [concerning, List.map_eq_nil_iff, List.filter_eq_nil_iff]
  intro e he hkey
  exact h (List.mem_filterMap.2 ⟨e, he, by simpa using hkey⟩)

/-- The keys that come up are enough to compare two histories. -/
theorem concerning_congr {events events' : List LedgerEvent}
    (h : ∀ key ∈ (events ++ events').filterMap LedgerEvent.key?,
      concerning key events = concerning key events') (key : String) :
    concerning key events = concerning key events' := by
  by_cases hkey : key ∈ (events ++ events').filterMap LedgerEvent.key?
  · exact h key hkey
  · rw [List.filterMap_append, List.mem_append, not_or] at hkey
    rw [concerning_eq_nil hkey.1, concerning_eq_nil hkey.2]

/-- The book after an event that belongs to it, if there is one. -/
def after? (b? : Option Book) : LedgerEvent → Option Book
  | .fill _ isBuy quantity price point =>
    if quantity = 0 then b?
    else
      match (b?.getD .empty).apply isBuy quantity price point with
      | (b, .error _) => some b
      | (b, .ok _) => some { b with mark := some price }
  | .mark _ price => b?.map fun b => { b with mark := some price }
  | .resetDay | .resetWeek => b?

theorem after?_respelled (symbol : String) (b? : Option Book) (e : LedgerEvent) :
    after? b? (e.respelled symbol) = after? b? e := by
  cases e <;> rfl

/-- The books with the one under a key replaced, if there is something to replace it with. -/
def refile (books : Table String Book) (key : String) : Option Book → Table String Book
  | none => books
  | some b => books.put key b

/-- All that an event does to the books: it replaces the one under its key, and looks at no other. -/
theorem books_apply (l : Ledger order) {e : LedgerEvent} {key : String} (h : e.key? = some key) :
    (l.apply e).1.books = refile l.books key (after? (l.books.get? key) e) := by
  cases e with
  | fill symbol isBuy quantity price point =>
    obtain rfl : symbolKey symbol = key := Option.some.inj h
    rw [apply, fill, after?]
    by_cases hquantity : quantity = 0
    · rw [if_pos hquantity, if_pos hquantity]
      cases hb : l.books.get? (symbolKey symbol) with
      | none => rfl
      | some b => exact (Table.put_of_get? hb).symm
    · rw [if_neg hquantity, if_neg hquantity, ← book]
      -- with or without a fault there is a new book, but only a booked fill is a mark
      rcases (l.book symbol).apply isBuy quantity price point with ⟨b, fault | result⟩
      · rfl
      · exact (addResult_fst _ result).1
  | mark symbol price =>
    obtain rfl : symbolKey symbol = key := Option.some.inj h
    rw [apply, after?]
    cases hb : l.books.get? (symbolKey symbol) with
    | none =>
      rw [mark_of_no_book price hb]
      rfl
    | some b => exact (mark_of_book price hb).1
  | resetDay => cases h
  | resetWeek => cases h

theorem books_of_no_key (l : Ledger order) {e : LedgerEvent} (h : e.key? = none) :
    (l.apply e).1.books = l.books := by
  cases e with
  | fill symbol isBuy quantity price point => cases h
  | mark symbol price => cases h
  | resetDay => rfl
  | resetWeek => rfl

theorem get?_refile (books : Table String Book) {key : String} {b? : Option Book} (other : String)
    (h : b? = none → books.get? key = none) :
    (refile books key b?).get? other = if key = other then b? else books.get? other := by
  cases b? with
  | some b => exact Table.get?_put books key other b
  | none =>
    -- nothing is filed, which agrees with the right side only if nothing was there
    rw [refile]
    split
    · next heq => rw [← heq, h rfl]
    · rfl

/-- A book does not go away. -/
theorem none_of_after? {b? : Option Book} {e : LedgerEvent} (h : after? b? e = none) : b? = none := by
  cases e with
  | fill symbol isBuy quantity price point =>
    rw [after?] at h
    split at h
    · exact h
    · split at h <;> cases h
  | mark symbol price => exact Option.map_eq_none_iff.1 h
  | resetDay => exact h
  | resetWeek => exact h

/-- What one event does to the book under a key. -/
theorem get?_apply (l : Ledger order) (e : LedgerEvent) (key : String) :
    (l.apply e).1.books.get? key =
      if e.key? = some key then after? (l.books.get? key) e else l.books.get? key := by
  cases hkey : e.key? with
  | none => rw [books_of_no_key l hkey, if_neg (by simp)]
  | some own =>
    rw [books_apply l hkey, get?_refile _ _ none_of_after?]
    by_cases heq : own = key
    · rw [if_pos heq, if_pos (congrArg some heq), heq]
    · rw [if_neg heq, if_neg fun h => heq (Option.some.inj h)]

/-- The book under a key is what the events of that key have made of it. -/
theorem get?_run (l : Ledger order) (events : List LedgerEvent) (key : String) :
    (l.run events).books.get? key = (concerning key events).foldl after? (l.books.get? key) := by
  induction events generalizing l with
  | nil => rfl
  | cons e rest ih =>
    have hrun : l.run (e :: rest) = (l.apply e).1.run rest := rfl
    rw [hrun, ih, get?_apply]
    -- an event of another key is neither applied to the book nor part of what concerns the key
    by_cases hkey : e.key? = some key
    · simp only [concerning, hkey, List.filter_cons, beq_self_eq_true, if_true, List.map_cons,
        List.foldl_cons, after?_respelled]
    · simp only [concerning, hkey, List.filter_cons, beq_iff_eq, if_false]

theorem distinct_apply {l : Ledger order} (h : l.books.Distinct) (e : LedgerEvent) :
    (l.apply e).1.books.Distinct := by
  cases hkey : e.key? with
  | none =>
    rw [books_of_no_key l hkey]
    exact h
  | some key =>
    rw [books_apply l hkey]
    cases after? (l.books.get? key) e with
    | none => exact h
    | some b => exact Table.distinct_put h key b

theorem distinct_run {l : Ledger order} (h : l.books.Distinct) (events : List LedgerEvent) :
    (l.run events).books.Distinct := by
  induction events generalizing l with
  | nil => exact h
  | cons e rest ih => exact ih (distinct_apply h e)

theorem distinct_new (start : Decimal) : (new order start).books.Distinct :=
  List.nodup_nil

/-! ## The account as a whole -/

/-- Adding the results of books to a total is done without rounding and without a fault.  The results
themselves may have been rounded. -/
def TotalExact : Decimal → List Book → Prop
  | _, [] => True
  | total, b :: rest =>
    Exactly (total.add b.realized) (total.value + b.realized.value) fun subtotal =>
    Returns b.unrealized fun valued =>
    Exactly (subtotal.add valued) (subtotal.value + valued.value) fun total =>
    TotalExact total rest

instance decidableTotalExact :
    (total : Decimal) → (books : List Book) → Decidable (TotalExact total books)
  | _, [] => inferInstanceAs (Decidable True)
  | total, b :: rest =>
    have := fun total => decidableTotalExact total rest
    inferInstanceAs (Decidable
      (Exactly (total.add b.realized) (total.value + b.realized.value) fun subtotal =>
      Returns b.unrealized fun valued =>
      Exactly (subtotal.add valued) (subtotal.value + valued.value) fun total =>
      TotalExact total rest))

theorem foldlM_addBook_of_total {total : Decimal} {books : List Book} (h : TotalExact total books) :
    ∃ e, books.foldlM addBook total = .ok e ∧
      e.value = total.value + (books.map Book.shown).sum := by
  induction books generalizing total with
  | nil => exact ⟨total, rfl, by simp⟩
  | cons b rest ih =>
    obtain ⟨subtotal, hsub, hsubv, h⟩ := exactly_iff.1 h
    obtain ⟨valued, hvalued, h⟩ := returns_iff.1 h
    obtain ⟨next, hnext, hnextv, hrest⟩ := exactly_iff.1 h
    obtain ⟨e, he, hev⟩ := ih hrest
    have hbook : addBook total b = .ok next := by
      simp only [addBook, hsub, hvalued, hnext, bind, Except.bind]
    have hshown : b.shown = b.realized.value + valued.value := by
      rw [Book.shown, hvalued]
      rfl
    refine ⟨e, ?_, ?_⟩
    · rw [List.foldlM_cons, hbook]
      exact he
    · rw [hev, hnextv, hsubv, List.map_cons, List.sum_cons, hshown]
      ring

/-- A property of every event of a history and the ledger that it meets. -/
def Throughout (P : Ledger order → LedgerEvent → Prop) : Ledger order → List LedgerEvent → Prop
  | _, [] => True
  | l, e :: rest => P l e ∧ Throughout P (l.apply e).1 rest

instance decidableThroughout (P : Ledger order → LedgerEvent → Prop) [∀ l e, Decidable (P l e)] :
    (l : Ledger order) → (events : List LedgerEvent) → Decidable (Throughout P l events)
  | _, [] => inferInstanceAs (Decidable True)
  | l, e :: rest =>
    have := decidableThroughout P (l.apply e).1 rest
    inferInstanceAs (Decidable (P l e ∧ Throughout P (l.apply e).1 rest))

/-- Both periods hold what all books have realized. -/
structure Level (l : Ledger order) : Prop where
  daily : l.dailyPnl.value = l.realizedTotal
  weekly : l.weeklyPnl.value = l.realizedTotal

theorem Level.apply {l : Ledger order} (h : l.Level) {e : LedgerEvent} (hsums : l.SumsExact e)
    (hopens : e.opensDay = false) : (l.apply e).1.Level := by
  cases e with
  | fill symbol isBuy quantity price point =>
    rw [Ledger.apply]
    by_cases hquantity : quantity = 0
    · rw [fill, if_pos hquantity]
      exact h
    · obtain ⟨result, -, hdaily, hweekly, hbooks⟩ := fill_adds hquantity hsums
      refine ⟨?_, ?_⟩
      · rw [hdaily, hbooks, h.daily]
      · rw [hweekly, hbooks, h.weekly]
  | mark symbol price =>
    obtain ⟨hdaily, hweekly, hbooks⟩ := l.mark_adds_nothing symbol price
    refine ⟨?_, ?_⟩
    · rw [Ledger.apply, hdaily, hbooks, h.daily]
    · rw [Ledger.apply, hweekly, hbooks, h.weekly]
  | resetDay => cases hopens
  | resetWeek => cases hopens

theorem Level.run {l : Ledger order} (h : l.Level) {events : List LedgerEvent}
    (hsums : Throughout SumsExact l events) (hopens : ∀ e ∈ events, e.opensDay = false) :
    (l.run events).Level := by
  induction events generalizing l with
  | nil => exact h
  | cons e rest ih =>
    have hstep := h.apply hsums.1 (hopens e List.mem_cons_self)
    exact ih hstep hsums.2 fun other hother => hopens other (List.mem_cons_of_mem _ hother)

theorem level_new (start : Decimal) : (new order start).Level :=
  ⟨value_zero, value_zero⟩

/-- Where there is an equity, every book can be valued. -/
theorem unrealized_of_foldlM {total e : Decimal} {books : List Book}
    (h : books.foldlM addBook total = .ok e) {b : Book} (hb : b ∈ books) :
    ∃ u, b.unrealized = .ok u := by
  induction books generalizing total with
  | nil => cases hb
  | cons first rest ih =>
    rw [List.foldlM_cons, Fault.bind_eq_ok] at h
    obtain ⟨next, hnext, hrest⟩ := h
    rcases List.mem_cons.1 hb with rfl | hb
    · rw [addBook, Fault.bind_eq_ok] at hnext
      obtain ⟨subtotal, -, hnext⟩ := hnext
      obtain ⟨valued, hvalued, -⟩ := Fault.bind_eq_ok.1 hnext
      exact ⟨valued, hvalued⟩
    · exact ih hrest hb

theorem unrealized_of_equity {l : Ledger order} {e : Decimal} (h : l.equity = .ok e)
    (symbol : String) : ∃ u, l.unrealized symbol = .ok u := by
  rw [unrealized]
  cases hb : l.books.get? (symbolKey symbol) with
  | none =>
    rw [book_of_none hb]
    exact ⟨.zero, rfl⟩
  | some b =>
    rw [book_of_some hb]
    have hmem : b ∈ l.inOrder := (order.perm l.books).mem_iff.2 (Table.mem_values_of_get? hb)
    exact unrealized_of_foldlM h hmem

theorem startingEquity_apply (l : Ledger order) (e : LedgerEvent) :
    (l.apply e).1.startingEquity = l.startingEquity := by
  cases e with
  | fill symbol isBuy quantity price point =>
    rw [apply, fill]
    split
    · rfl
    · split
      · rfl
      · exact (addResult_fst _ _).2
  | mark symbol price =>
    rw [apply, mark]
    split
    · rfl
    · exact (raisePeak_fst _).2
  | resetDay => rfl
  | resetWeek => rfl

theorem startingEquity_run (l : Ledger order) (events : List LedgerEvent) :
    (l.run events).startingEquity = l.startingEquity := by
  induction events generalizing l with
  | nil => rfl
  | cons e rest ih => exact (ih (l.apply e).1).trans (l.startingEquity_apply e)

/-- The equity after a history, if adding up the books is exact. -/
theorem equity_of_total {start : Decimal} {events : List LedgerEvent}
    (h : TotalExact start ((new order start).run events).inOrder) :
    ∃ e, ((new order start).run events).equity = .ok e ∧
      e.value = start.value + (((new order start).run events).inOrder.map Book.shown).sum := by
  have hstart : ((new order start).run events).startingEquity = start := startingEquity_run _ events
  rw [equity, hstart]
  exact foldlM_addBook_of_total h

/-- The number of contracts does not depend on the order in which they are counted, not even where
it wraps around. -/
theorem contracts_of_perm {order' : BookOrder} {l : Ledger order} {l' : Ledger order'}
    (h : l.inOrder.Perm l'.inOrder) : l.contracts = l'.contracts := by
  refine h.foldl_eq' ?_ 0
  intro b _ b' _ n
  ac_rfl

/-- Two histories of fills and marks in which every key has the same events in the same order, in
whatever mixing and spelling, and with their books gone through in whatever order.  If neither ends
in a fault, all symbols have the same positions, prices and results in the end, and the snapshots
count the same contracts.  If no sum over results rounds either, the results of the periods and the
equity have the same values, too. -/
theorem interleaving_independent {order order' : BookOrder} {start : Decimal}
    {events events' : List LedgerEvent}
    (htrades : ∀ e ∈ events, e.opensDay = false) (htrades' : ∀ e ∈ events', e.opensDay = false)
    (hsame : ∀ key, concerning key events = concerning key events')
    (hcompletes : (new order start).Completes events)
    (hcompletes' : (new order' start).Completes events') :
    let l := (new order start).run events
    let l' := (new order' start).run events'
    (∀ symbol, l.position symbol = l'.position symbol ∧ l.avgPrice symbol = l'.avgPrice symbol ∧
        l.realized symbol = l'.realized symbol ∧
        ∃ u, l.unrealized symbol = .ok u ∧ l'.unrealized symbol = .ok u) ∧
      (∃ s s', l.snapshot = .ok s ∧ l'.snapshot = .ok s' ∧
        s.accountQuantity = s'.accountQuantity) ∧
      (Throughout SumsExact (new order start) events →
        Throughout SumsExact (new order' start) events' →
        TotalExact start l.inOrder → TotalExact start l'.inOrder →
        l.dailyPnl.value = l'.dailyPnl.value ∧ l.weeklyPnl.value = l'.weeklyPnl.value ∧
          ∃ e e', l.equity = .ok e ∧ l'.equity = .ok e' ∧ e.value = e'.value) := by
  intro l l'
  have hget : ∀ key, l.books.get? key = l'.books.get? key := by
    intro key
    rw [get?_run, get?_run, hsame key]
    rfl
  have hbook : ∀ symbol, l.book symbol = l'.book symbol := by
    intro symbol
    rw [book, book, hget]
  -- the books are the same, but they were opened in another order, and are gone through in another
  have hvalues : l.books.values.Perm l'.books.values :=
    Table.values_perm (distinct_run (distinct_new start) events)
      (distinct_run (distinct_new start) events') hget
  have hperm : l.inOrder.Perm l'.inOrder :=
    ((order.perm l.books).trans hvalues).trans (order'.perm l'.books).symm
  obtain ⟨⟨e, hequity, -⟩, -⟩ := isGreatest_peakEquity hcompletes
  obtain ⟨⟨e', hequity', -⟩, -⟩ := isGreatest_peakEquity hcompletes'
  refine ⟨?_, ?_, ?_⟩
  · intro symbol
    obtain ⟨u, hu⟩ := unrealized_of_equity hequity symbol
    refine ⟨?_, ?_, ?_, u, hu, ?_⟩
    · rw [position, position, hbook]
    · rw [avgPrice, avgPrice, hbook]
    · rw [realized, realized, hbook]
    · rw [unrealized, hbook] at hu
      exact hu
  · refine ⟨_, _, by rw [snapshot, hequity]; rfl, by rw [snapshot, hequity']; rfl, ?_⟩
    exact congrArg (min ·.toNat Count.max) (contracts_of_perm hperm)
  · intro hsums hsums' htotal htotal'
    -- no period was opened on the way, so both hold what the books have realized
    have hrealized : l.realizedTotal = l'.realizedTotal := (hvalues.map _).sum_eq
    have hlevel : l.Level := (level_new start).run hsums htrades
    have hlevel' : l'.Level := (level_new start).run hsums' htrades'
    obtain ⟨e, he, hvalue⟩ := equity_of_total htotal
    obtain ⟨e', he', hvalue'⟩ := equity_of_total htotal'
    refine ⟨?_, ?_, e, e', he, he', ?_⟩
    · rw [hlevel.daily, hlevel'.daily, hrealized]
    · rw [hlevel.weekly, hlevel'.weekly, hrealized]
    · rw [hvalue, hvalue', (hperm.map Book.shown).sum_eq]

/-- One contract each in two symbols, of which one gains 10 and the other loses 10 and one of them is
then sold.  In whichever order this happens, and however the symbols are spelled, the account is the
same in the end, but if the gain comes first the highest equity is 1010 and otherwise 1000. -/
theorem interleaving_independent_of_two_symbols :
    let start : Decimal := .whole false 1000 (by decide)
    let hundred : Decimal := .whole false 100 (by decide)
    let up : Decimal := .whole false 110 (by decide)
    let down : Decimal := .whole false 90 (by decide)
    let events : List LedgerEvent :=
      [ .fill "ES" true 1 hundred .one, .fill "NQ" true 1 hundred .one, .mark "ES" up,
        .mark "NQ" down, .fill "ES" false 1 up .one ]
    let events' : List LedgerEvent :=
      [ .fill " nq" true 1 hundred .one, .fill "es" true 1 hundred .one, .mark "Nq" down,
        .mark "ES " up, .fill "es" false 1 up .one ]
    let l := (new .opened start).run events
    let l' := (new .opened start).run events'
    (∀ key, concerning key events = concerning key events') ∧
      l.realized "ES" = l'.realized "ES" ∧
      (∃ u, l.unrealized "NQ" = .ok u ∧ l'.unrealized "NQ" = .ok u) ∧
      l.dailyPnl.value = l'.dailyPnl.value ∧
      (∃ e e', l.equity = .ok e ∧ l'.equity = .ok e' ∧ e.value = e'.value) ∧
      l.peakEquity = .whole false 1010 (by decide) ∧ l'.peakEquity = start := by
  intro start hundred up down events events' l l'
  have hsame : ∀ key, concerning key events = concerning key events' :=
    concerning_congr (by decide +kernel)
  have htrades : ∀ e ∈ events, e.opensDay = false := by decide
  have htrades' : ∀ e ∈ events', e.opensDay = false := by decide
  have hcompletes : (new .opened start).Completes events := by
    refine ⟨?_, ?_, ?_, ?_, ?_, trivial⟩ <;> decide +kernel
  have hcompletes' : (new .opened start).Completes events' := by
    refine ⟨?_, ?_, ?_, ?_, ?_, trivial⟩ <;> decide +kernel
  obtain ⟨hsymbols, -, haccount⟩ :=
    interleaving_independent htrades htrades' hsame hcompletes hcompletes'
  obtain ⟨hdaily, -, hequity⟩ := haccount (by decide +kernel) (by decide +kernel)
    (by decide +kernel) (by decide +kernel)
  exact ⟨hsame, (hsymbols "ES").2.2.1, (hsymbols "NQ").2.2.2, hdaily, hequity, by decide +kernel,
    by decide +kernel⟩

end Ledger
end EntryGate
