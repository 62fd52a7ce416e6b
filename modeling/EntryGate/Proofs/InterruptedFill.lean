import EntryGate.Ledger
import Mathlib.Data.List.Basic

/-!
# Interrupted fills

A fill is booked in several steps, and any of them can leave the range of decimals.  Nothing is taken
back then: what the steps before have written stays.  So a fill that fails need not leave the ledger
as it was, but it can leave it in four ways only.

* `Ledger.Interrupted` lists the places at which a fill can be broken off, each with the ledger that
  is left behind.  `Ledger.fill_eq_error_iff` says that there are no others;
* `Ledger.fill_interrupted` collects what follows: which parts of the ledger are never touched, and
  when nothing is touched at all;
* `Ledger.failed_fills_are_kept` shows failed fills that change positions, results and the equity.
-/

namespace EntryGate

open Text

namespace Table

variable {κ ν : Type} [DecidableEq κ]

theorem replace_of_find? {key : κ} {value : ν} {es : List (κ × ν)}
    (h : find? key es = some value) : replace key value es = es := by
  induction es with
  | nil => cases h
  | cons e rest ih =>
    rcases e with ⟨k, v⟩
    by_cases hk : k = key
    · rw [find?, if_pos hk] at h
      cases h
      rw [replace, if_pos hk]
    · rw [find?, if_neg hk] at h
      rw [replace, if_neg hk, ih h]

/-- Filing the value that is already there changes nothing. -/
theorem put_of_get? {t : Table κ ν} {key : κ} {value : ν} (h : t.get? key = some value) :
    t.put key value = t := by
  rw [put, replace_of_find? h]

end Table

/-! ## Books -/

namespace Book

/-- A fill of some contracts changes the word of a position, since it is too small to go around. -/
theorem ofInt_signedQuantity_ne_zero (isBuy : Bool) {quantity : UInt32} (h : quantity ≠ 0) :
    Int64.ofInt (signedQuantity isBuy quantity) ≠ 0 := by
  have hlt := quantity.toNat_lt
  have hbounds : (signedQuantity isBuy quantity).natAbs < 2 ^ 32 := by
    rw [signedQuantity]
    split <;> omega
  have hread : (Int64.ofInt (signedQuantity isBuy quantity)).toInt =
      signedQuantity isBuy quantity := by
    rw [Int64.toInt_ofInt, Int64.size]
    exact Int.bmod_eq_of_le (by omega) (by omega)
  intro hzero
  rw [hzero] at hread
  exact signedQuantity_ne_zero isBuy h hread.symm

/-- Any fill is on the side of no position. -/
theorem adds_of_flat {b : Book} (hflat : b.quantity = 0) {signed : Int} (hsigned : signed ≠ 0) :
    b.adds signed = true := by
  rw [adds, hflat]
  apply decide_eq_true
  omega

/-- A fill is booked whole, or it leaves nothing but its point value. -/
theorem apply_cases (b : Book) (isBuy : Bool) (quantity : UInt32) (price pointValue : Decimal) :
    (∃ fault, b.apply isBuy quantity price pointValue =
        ({ b with pointValue := pointValue }, .error fault)) ∨
      ∃ b' result, b.apply isBuy quantity price pointValue = (b', .ok result) ∧
        b'.held = b.held + .ofInt (signedQuantity isBuy quantity) := by
  simp only [apply]
  split
  · split
    · exact .inr ⟨_, _, rfl, rfl⟩
    · exact .inl ⟨_, rfl⟩
  · split
    · exact .inr ⟨_, _, rfl, rfl⟩
    · exact .inl ⟨_, rfl⟩

/-- Opening a position takes no computation. -/
theorem apply_of_flat {b : Book} (hflat : b.quantity = 0) (isBuy : Bool) {quantity : UInt32}
    (hquantity : quantity ≠ 0) (price pointValue : Decimal) :
    (b.apply isBuy quantity price pointValue).2 = .ok .zero := by
  have hadds : Book.adds { b with pointValue := pointValue } (signedQuantity isBuy quantity) = true :=
    adds_of_flat hflat (signedQuantity_ne_zero isBuy hquantity)
  have haverage : Book.averagePrice { b with pointValue := pointValue } quantity price = .ok price :=
    if_pos hflat
  simp only [apply, hadds, haverage, if_true]

theorem apply_of_error {b : Book} {isBuy : Bool} {quantity : UInt32} {price pointValue : Decimal}
    {fault : Fault} (hquantity : quantity ≠ 0)
    (h : (b.apply isBuy quantity price pointValue).2 = .error fault) :
    b.apply isBuy quantity price pointValue = ({ b with pointValue := pointValue }, .error fault) ∧
      b.quantity ≠ 0 := by
  constructor
  · rcases b.apply_cases isBuy quantity price pointValue with ⟨other, happly⟩ | ⟨b', result, happly, -⟩
    · rw [happly] at h ⊢
      cases h
      rfl
    · rw [happly] at h
      cases h
  · intro hflat
    rw [apply_of_flat hflat isBuy hquantity] at h
    cases h

theorem held_of_apply {b b' : Book} {isBuy : Bool} {quantity : UInt32}
    {price pointValue result : Decimal}
    (h : b.apply isBuy quantity price pointValue = (b', .ok result)) :
    b'.held = b.held + .ofInt (signedQuantity isBuy quantity) := by
  rcases b.apply_cases isBuy quantity price pointValue with
    ⟨other, happly⟩ | ⟨b'', result', happly, hheld⟩
  · rw [happly] at h
    cases h
  · rw [happly] at h
    cases h
    exact hheld

end Book

/-! ## Ledgers -/

namespace Ledger

variable {order : BookOrder}

/-- The ledger with the book that a fill has led to, marked with the price of the fill. -/
def booked (l : Ledger order) (symbol : String) (b : Book) (price : Decimal) : Ledger order :=
  { l with books := l.books.put (symbolKey symbol) { b with mark := some price } }

/-- The ledgers that a fill can leave behind with a fault. -/
inductive Interrupted (l : Ledger order) (symbol : String) (isBuy : Bool) (quantity : UInt32)
    (price pointValue : Decimal) (fault : Fault) : Ledger order → Prop where
  /-- The average price or the result cannot be computed.  Only the point value is new, in the book
  of a position that was open. -/
  | booking (hopen : (l.book symbol).quantity ≠ 0)
      (hfault : ((l.book symbol).apply isBuy quantity price pointValue).2 = .error fault) :
      Interrupted l symbol isBuy quantity price pointValue fault
        { l with
          books := l.books.put (symbolKey symbol) { l.book symbol with pointValue := pointValue } }
  /-- The fill is in the book, but its result cannot be added to the day. -/
  | day {b : Book} {result : Decimal}
      (hbook : (l.book symbol).apply isBuy quantity price pointValue = (b, .ok result))
      (hfault : l.dailyPnl.add result = .error fault) :
      Interrupted l symbol isBuy quantity price pointValue fault (l.booked symbol b price)
  /-- The result is in the book and in the day, but cannot be added to the week. -/
  | week {b : Book} {result daily : Decimal}
      (hbook : (l.book symbol).apply isBuy quantity price pointValue = (b, .ok result))
      (hday : l.dailyPnl.add result = .ok daily)
      (hfault : l.weeklyPnl.add result = .error fault) :
      Interrupted l symbol isBuy quantity price pointValue fault
        { l.booked symbol b price with dailyPnl := daily }
  /-- All results are booked, but the equity that they lead to cannot be computed. -/
  | equity {b : Book} {result daily weekly : Decimal}
      (hbook : (l.book symbol).apply isBuy quantity price pointValue = (b, .ok result))
      (hday : l.dailyPnl.add result = .ok daily)
      (hweek : l.weeklyPnl.add result = .ok weekly)
      (hfault : (l.booked symbol b price).equity = .error fault) :
      Interrupted l symbol isBuy quantity price pointValue fault
        { l.booked symbol b price with dailyPnl := daily, weeklyPnl := weekly }

section

variable {l left : Ledger order} {symbol : String} {isBuy : Bool} {quantity : UInt32}
  {price pointValue : Decimal} {fault : Fault}

theorem raisePeak_eq_error_iff :
    l.raisePeak = (left, .error fault) ↔ l.equity = .error fault ∧ left = l := by
  rw [raisePeak]
  constructor
  · intro h
    split at h
    · cases h
    · next hequity =>
      cases h
      exact ⟨hequity, rfl⟩
  · rintro ⟨hequity, rfl⟩
    rw [hequity]

/-- A fill fails exactly at the places that are listed. -/
theorem fill_eq_error_iff :
    l.fill symbol isBuy quantity price pointValue = (left, .error fault) ↔
      quantity ≠ 0 ∧ Interrupted l symbol isBuy quantity price pointValue fault left := by
  constructor
  · intro h
    rw [fill] at h
    split at h
    · cases h
    · next hquantity =>
      refine ⟨hquantity, ?_⟩
      -- book, day, week and equity, in the order in which they are written
      split at h
      · next b fault' hbook =>
        cases h
        have hfault : ((l.book symbol).apply isBuy quantity price pointValue).2 = .error fault := by
          rw [hbook]
        obtain ⟨happly, hopen⟩ := Book.apply_of_error hquantity hfault
        rw [hbook] at happly
        cases happly
        exact .booking hopen hfault
      · next b result hbook =>
        simp only [addResult] at h
        split at h
        · next hfault =>
          cases h
          exact .day hbook hfault
        · next daily hday =>
          split at h
          · next hfault =>
            cases h
            exact .week hbook hday hfault
          · next weekly hweek =>
            obtain ⟨hfault, rfl⟩ := raisePeak_eq_error_iff.1 h
            exact .equity hbook hday hweek hfault
  · rintro ⟨hquantity, h⟩
    rw [fill, if_neg hquantity]
    cases h with
    | booking hopen hfault => rw [(Book.apply_of_error hquantity hfault).1]
    | day hbook hfault => simp only [hbook, addResult, hfault, booked]
    | week hbook hday hfault => simp only [hbook, addResult, hday, hfault, booked]
    | equity hbook hday hweek hfault =>
      simp only [hbook, addResult, hday, hweek]
      exact raisePeak_eq_error_iff.2 ⟨hfault, rfl⟩

/-! ### What is left behind -/

theorem get?_booked_of_ne (b : Book) {key : String} (h : key ≠ symbolKey symbol) :
    (l.booked symbol b price).books.get? key = l.books.get? key := by
  rw [booked, Table.get?_put, if_neg (Ne.symm h)]

theorem Interrupted.accounts (h : Interrupted l symbol isBuy quantity price pointValue fault left) :
    left.startingEquity = l.startingEquity ∧ left.peakEquity = l.peakEquity := by
  cases h <;> exact ⟨rfl, rfl⟩

theorem Interrupted.get?_of_ne
    (h : Interrupted l symbol isBuy quantity price pointValue fault left) {key : String}
    (hkey : key ≠ symbolKey symbol) : left.books.get? key = l.books.get? key := by
  cases h with
  | booking hopen hfault => rw [Table.get?_put, if_neg (Ne.symm hkey)]
  | day hbook hfault => exact get?_booked_of_ne _ hkey
  | week hbook hday hfault => exact get?_booked_of_ne _ hkey
  | equity hbook hday hweek hfault => exact get?_booked_of_ne _ hkey

/-- A book with a position is there. -/
theorem get?_of_open (h : (l.book symbol).quantity ≠ 0) :
    l.books.get? (symbolKey symbol) = some (l.book symbol) := by
  rw [book] at h ⊢
  cases hbook : l.books.get? (symbolKey symbol) with
  | none =>
    rw [hbook] at h
    exact absurd rfl h
  | some b => rfl

/-- A fill that is in the books has changed the position. -/
theorem ne_of_booked {b : Book} {result : Decimal} (hquantity : quantity ≠ 0)
    (hbook : (l.book symbol).apply isBuy quantity price pointValue = (b, .ok result))
    (hbooks : left.books = (l.booked symbol b price).books) : left ≠ l := by
  rintro rfl
  have hthere : left.book symbol = { b with mark := some price } := by
    rw [book, hbooks, booked, Table.get?_put, if_pos rfl, Option.getD_some]
  have hposition : b.held = (left.book symbol).held := by
    rw [hthere]
  rw [Book.held_of_apply hbook, Int64.add_eq_left] at hposition
  exact Book.ofInt_signedQuantity_ne_zero isBuy hquantity hposition

/-- Nothing is changed exactly if the fill was not booked and its point value was no news. -/
theorem Interrupted.eq_iff (hquantity : quantity ≠ 0)
    (h : Interrupted l symbol isBuy quantity price pointValue fault left) :
    left = l ↔ ((l.book symbol).apply isBuy quantity price pointValue).2 = .error fault ∧
      (l.book symbol).pointValue = pointValue := by
  cases h with
  | booking hopen hfault =>
    constructor
    · intro hsame
      refine ⟨hfault, ?_⟩
      have hbook : l.books.get? (symbolKey symbol) =
          some { l.book symbol with pointValue := pointValue } := by
        conv_lhs => rw [← hsame]
        rw [Table.get?_put, if_pos rfl]
      rw [get?_of_open hopen] at hbook
      exact congrArg Book.pointValue (Option.some.inj hbook)
    · rintro ⟨-, rfl⟩
      rw [Table.put_of_get? (get?_of_open hopen)]
  -- in all other cases the fill is in the books
  | day hbook hfault => exact iff_of_false (ne_of_booked hquantity hbook rfl) (by simp [hbook])
  | week hbook hday hfault => exact iff_of_false (ne_of_booked hquantity hbook rfl) (by simp [hbook])
  | equity hbook hday hweek hfault =>
    exact iff_of_false (ne_of_booked hquantity hbook rfl) (by simp [hbook])

/-- What a fill leaves behind that ends in a fault.  Its updates stand up to the place where it was
broken off, and nothing is taken back.  The starting equity, the highest equity and the books of all
other symbols are never among them; and nothing at all has changed exactly if the fill could not be
booked in the first place and came with the point value that the book had before. -/
theorem fill_interrupted
    (h : (l.fill symbol isBuy quantity price pointValue).2 = .error fault) :
    let left := (l.fill symbol isBuy quantity price pointValue).1
    Interrupted l symbol isBuy quantity price pointValue fault left ∧
      left.startingEquity = l.startingEquity ∧ left.peakEquity = l.peakEquity ∧
      (∀ key, key ≠ symbolKey symbol → left.books.get? key = l.books.get? key) ∧
      (left = l ↔ ((l.book symbol).apply isBuy quantity price pointValue).2 = .error fault ∧
        (l.book symbol).pointValue = pointValue) := by
  intro left
  obtain ⟨hquantity, hleft⟩ := fill_eq_error_iff.1 (Prod.ext (Eq.refl left) h)
  obtain ⟨hstart, hpeak⟩ := hleft.accounts
  exact ⟨hleft, hstart, hpeak, fun key hkey => hleft.get?_of_ne hkey, hleft.eq_iff hquantity⟩

end

/-- One contract bought at 100 and a second one at the greatest price that there is, which cannot be
averaged.  The point value is the same, and so the ledger is. -/
theorem fill_interrupted_of_same_point_value :
    let l := (new .opened (.whole false 1000 (by decide))).run
      [.fill "ES" true 1 (.whole false 100 (by decide)) .one]
    let greatest : Decimal := .whole false (power 2 96 - 1) (by decide)
    (l.fill "ES" true 1 greatest .one).2 = .error .additionOverflow ∧
      (l.fill "ES" true 1 greatest .one).1 = l := by
  intro l greatest
  have hfault : (l.fill "ES" true 1 greatest .one).2 = .error .additionOverflow := by decide +kernel
  obtain ⟨-, -, -, -, hunchanged⟩ := fill_interrupted hfault
  refine ⟨hfault, hunchanged.2 ⟨?_, ?_⟩⟩
  · decide +kernel
  · decide +kernel

/-- Failed fills that change the ledger.  With another point value, the second contract of an account
at 1010 leaves an equity of 1020, above the highest equity of 1010.  And in an account that already
has all the equity there can be, a position is closed with a profit of 1: it is gone, and the profit
is in the results of the day and the week, but there is no equity any more. -/
theorem failed_fills_are_kept :
    let greatest : Decimal := .whole false (power 2 96 - 1) (by decide)
    let two : Decimal := .whole false 2 (by decide)
    let opened := (new .opened (.whole false 1000 (by decide))).run
      [.fill "ES" true 1 (.whole false 100 (by decide)) .one,
        .mark "ES" (.whole false 110 (by decide))]
    let averaged := opened.fill "ES" true 1 greatest two
    let full := (new .opened greatest).run [.fill "ES" true 1 .one .one]
    let closed := full.fill "ES" false 1 two .one
    (averaged.2 = .error .additionOverflow ∧ averaged.1 ≠ opened ∧
        opened.equity = .ok (.whole false 1010 (by decide)) ∧
        averaged.1.equity = .ok (.whole false 1020 (by decide)) ∧
        averaged.1.peakEquity = .whole false 1010 (by decide)) ∧
      closed.2 = .error .additionOverflow ∧ closed.1 ≠ full ∧
        full.position "ES" = 1 ∧ closed.1.position "ES" = 0 ∧
        full.dailyPnl = .zero ∧ closed.1.dailyPnl = .one ∧ closed.1.weeklyPnl = .one ∧
        full.equity = .ok greatest ∧ closed.1.equity = .error .additionOverflow := by
  decide +kernel

end Ledger
end EntryGate
