import EntryGate.Proofs.NumberText
import EntryGate.Time.LocalDateTime

/-!
# Times as text

A time of day is written with the second 60 in a leap second, and a date with a sign outside the
years 0 to 9999.  Times and dates that have been read are given back when what is written for them is
read again.

* `TimeOfDay.Proper` are the times that fields can make up, with leap seconds at the end of a minute
  only, and `TimeOfDay.parse?_render` reads them;
* `Date.scanSpaced?_render` reads dates, whatever follows them;
* `LocalDateTime.parse?_render` puts the two together.
-/

namespace EntryGate

open Text

/-! ## Times of day -/

namespace TimeOfDay

/-- A leap second is the last second of its minute. -/
def Proper (t : TimeOfDay) : Prop :=
  t.isLeap = true → t.second = 59

/-- The second that is written. -/
def shownSecond (t : TimeOfDay) : Nat :=
  if t.isLeap then t.second + 1 else t.second

/-- The nanosecond that is written. -/
def shownNanos (t : TimeOfDay) : Nat :=
  if t.isLeap then t.nanos - 1000000000 else t.nanos

theorem proper_of_ofFields? {hour minute second nanos : Nat} {t : TimeOfDay}
    (h : ofFields? hour minute second nanos = some t) : t.Proper := by
  rw [ofFields?] at h
  split at h
  · split at h
    · cases h
      intro _
      show (hour * 3600 + minute * 60 + 59) % 60 = 59
      omega
    · split at h
      · cases h
        intro hleap
        -- the nanosecond of a field is too small for a leap second
        have hnanos : 1000000000 ≤ nanos := of_decide_eq_true hleap
        omega
      · cases h
  · cases h

/-- The fields that are written make up the time again. -/
theorem ofFields?_shown {t : TimeOfDay} (h : t.Proper) :
    ofFields? t.hour t.minute t.shownSecond t.shownNanos = some t := by
  have hseconds := t.seconds_lt
  have hnanos := t.nanos_lt
  have hhour : t.hour ≤ 23 := by
    rw [hour]
    omega
  have hminute : t.minute ≤ 59 := by
    rw [minute]
    omega
  have hsum : t.hour * 3600 + t.minute * 60 + t.second = t.seconds := by
    rw [hour, minute, second]
    omega
  rw [ofFields?, shownSecond, shownNanos]
  cases hleap : t.isLeap with
  | true =>
    have hlast : t.second = 59 := h hleap
    have hlarge : 1000000000 ≤ t.nanos := of_decide_eq_true hleap
    rw [hlast] at hsum
    -- it is written as second 60, which is read as a second 59 that lasts on
    simp only [if_true, hlast]
    rw [dif_pos ⟨hhour, hminute, by omega, by omega⟩]
    refine congrArg some (rank_injective ?_)
    show (t.hour * 3600 + t.minute * 60 + 59) * 2000000000 + (t.nanos - 1000000000 + 1000000000) = _
    rw [hsum, Nat.sub_add_cancel hlarge]
    rfl
  | false =>
    have hsmall : ¬1000000000 ≤ t.nanos := of_decide_eq_false hleap
    have hsecond : t.second ≤ 59 := by
      rw [second]
      omega
    simp only [Bool.false_eq_true, if_false]
    rw [dif_pos ⟨hhour, hminute, by omega, by omega⟩, if_neg (by omega), dif_pos hsecond]
    refine congrArg some (rank_injective ?_)
    show (t.hour * 3600 + t.minute * 60 + t.second) * 2000000000 + t.nanos = _
    rw [hsum]
    rfl

theorem renderChars_eq (t : TimeOfDay) :
    t.renderChars =
      paddedDigits 2 t.hour ++ ':' :: (paddedDigits 2 t.minute ++
        ':' :: (paddedDigits 2 t.shownSecond ++ fractionChars t.shownNanos)) := by
  rw [renderChars, shownSecond, shownNanos]
  cases t.isLeap <;> simp

/-! ### Fractions of a second -/

theorem endsNumber_fractionChars (nanos : Nat) : EndsNumber (fractionChars nanos) := by
  rw [fractionChars]
  split
  · exact endsNumber_nil
  · split
    · exact endsNumber_cons (by decide) _
    · split
      · exact endsNumber_cons (by decide) _
      · exact endsNumber_cons (by decide) _

/-- A fraction with some of nine digits is read in nanoseconds. -/
theorem nanoseconds?_padded {width n : Nat} (hwidth : 0 < width) (hnine : width ≤ 9)
    (h : n < power 10 width) :
    nanoseconds? (paddedDigits width n) = some (n * power 10 (9 - width), []) := by
  have hlength := length_padded hwidth h
  have hall : (paddedDigits width n).takeWhile Char.isDigit = paddedDigits width n := by
    have htake := takeWhile_digits (isDigit_padded width n) endsNumber_nil
    rwa [List.append_nil] at htake
  rw [nanoseconds?, hall, List.take_of_length_le (by omega), hlength, digitsValue_padded]
  simp [padded_ne_nil, hlength]

theorem fraction?_fractionChars {nanos : Nat} (h : nanos < 1000000000) :
    fraction? (fractionChars nanos) = some (nanos, []) := by
  rw [fractionChars]
  by_cases hzero : nanos = 0
  · rw [if_pos hzero, hzero]
    rfl
  · rw [if_neg hzero]
    by_cases hmillis : nanos % 1000000 = 0
    · have hfits : nanos / 1000000 < 1000 := by omega
      rw [if_pos hmillis]
      show nanoseconds? (paddedDigits 3 (nanos / 1000000)) = _
      rw [nanoseconds?_padded (by decide) (by decide) hfits]
      have hpower : power 10 (9 - 3) = 1000000 := by decide
      rw [hpower, Nat.div_mul_cancel (Nat.dvd_of_mod_eq_zero hmillis)]
    · rw [if_neg hmillis]
      by_cases hmicros : nanos % 1000 = 0
      · have hfits : nanos / 1000 < 1000000 := by omega
        rw [if_pos hmicros]
        show nanoseconds? (paddedDigits 6 (nanos / 1000)) = _
        rw [nanoseconds?_padded (by decide) (by decide) hfits]
        have hpower : power 10 (9 - 6) = 1000 := by decide
        rw [hpower, Nat.div_mul_cancel (Nat.dvd_of_mod_eq_zero hmicros)]
      · rw [if_neg hmicros]
        show nanoseconds? (paddedDigits 9 nanos) = _
        rw [nanoseconds?_padded (by decide) (by decide) h]
        show some (nanos * 1, []) = _
        rw [Nat.mul_one]

/-! ### Reading what is written -/

/-- A number of two digits at most and the colon that follows it. -/
theorem field?_colon {n : Nat} (h : n < 100) (rest : List Char) :
    field? 2 (paddedDigits 2 n ++ ':' :: rest) = some (n, ':' :: rest) :=
  field?_padded (by decide) h (endsNumber_cons (by decide) rest)

theorem spacedChar?_colon (rest : List Char) : spacedChar? ':' (':' :: rest) = some rest :=
  spacedChar?_mark (by decide) rest

theorem scanSeconds?_chars {second nanos : Nat} (hsecond : second < 100)
    (hnanos : nanos < 1000000000) :
    scanSeconds? (':' :: (paddedDigits 2 second ++ fractionChars nanos)) =
      some ((second, nanos), []) := by
  have hread : field? 2 (paddedDigits 2 second ++ fractionChars nanos) =
      some (second, fractionChars nanos) :=
    field?_padded (by decide) hsecond (endsNumber_fractionChars nanos)
  simp only [scanSeconds?, spacedChar?_colon, hread, fraction?_fractionChars hnanos,
    Option.bind_eq_bind, Option.bind_some]
  rfl

theorem hour_lt (t : TimeOfDay) : t.hour < 100 := by
  have hseconds := t.seconds_lt
  rw [hour]
  omega

theorem minute_lt (t : TimeOfDay) : t.minute < 100 := by
  rw [minute]
  omega

theorem shownSecond_lt (t : TimeOfDay) : t.shownSecond < 100 := by
  rw [shownSecond, second]
  split <;> omega

theorem shownNanos_lt (t : TimeOfDay) : t.shownNanos < 1000000000 := by
  have hnanos := t.nanos_lt
  rw [shownNanos]
  split
  · omega
  · next hleap =>
    rw [isLeap, decide_eq_true_eq] at hleap
    omega

/-- The hour, the minute and the second of a time that is written are read one after the other. -/
theorem scanSeconds?_render (t : TimeOfDay) :
    scanSeconds? (':' :: (paddedDigits 2 t.shownSecond ++ fractionChars t.shownNanos)) =
      some ((t.shownSecond, t.shownNanos), []) :=
  scanSeconds?_chars t.shownSecond_lt t.shownNanos_lt

theorem parse?_render {t : TimeOfDay} (h : t.Proper) : parse? t.render = some t := by
  simp only [parse?, render, String.toList_ofList, renderChars_eq, field?_colon t.hour_lt,
    spacedChar?_colon, field?_colon t.minute_lt, t.scanSeconds?_render, Option.bind_eq_bind,
    Option.bind_some]
  exact ofFields?_shown h

/-- Every time that is read is one that fields make up. -/
theorem proper_of_parse? {s : String} {t : TimeOfDay} (h : parse? s = some t) : t.Proper := by
  rw [parse?] at h
  obtain ⟨⟨hour, cs⟩, -, h⟩ := Option.bind_eq_some_iff.1 h
  obtain ⟨cs, -, h⟩ := Option.bind_eq_some_iff.1 h
  obtain ⟨⟨minute, cs⟩, -, h⟩ := Option.bind_eq_some_iff.1 h
  simp only at h
  split at h
  · exact proper_of_ofFields? h
  · split at h
    · exact proper_of_ofFields? h
    · cases h

end TimeOfDay

/-! ## Dates -/

namespace Date

/-- A day that exists in the supported years. -/
def Exists (d : Date) : Prop :=
  ofYMD? d.year d.month d.day = some d

theorem exists_of_ofYMD? {year : Int} {month day : Nat} {d : Date}
    (h : ofYMD? year month day = some d) : d.Exists := by
  rw [ofYMD?] at h
  split at h
  · next hday =>
    cases h
    exact if_pos hday
  · cases h

theorem Exists.lt {d : Date} (h : d.Exists) : d.month < 100 ∧ d.day < 100 := by
  rw [Exists, ofYMD?] at h
  split at h
  · next hday =>
    obtain ⟨-, -, -, hmonth, -, hlast⟩ := hday
    have hlength : daysInMonth d.year d.month ≤ 31 := by
      rw [daysInMonth]
      split
      · split <;> decide
      · split <;> decide
    omega
  · cases h

theorem scanYear?_minus (rest : List Char) :
    scanYear? ('-' :: rest) = (number? rest.length rest).map fun (n, rest) => (-(n : Int), rest) :=
  rfl

theorem scanYear?_plus (rest : List Char) :
    scanYear? ('+' :: rest) = (number? rest.length rest).map fun (n, rest) => ((n : Int), rest) :=
  rfl

theorem scanYear?_padded (width n : Nat) (rest : List Char) :
    scanYear? (paddedDigits width n ++ rest) =
      (number? 4 (paddedDigits width n ++ rest)).map fun (n, rest) => ((n : Int), rest) := by
  have hhead : ∀ c cs, paddedDigits width n ++ rest = c :: cs → c.isDigit = true := by
    intro c cs hcs
    cases hds : paddedDigits width n with
    | nil => exact absurd hds (padded_ne_nil width n)
    | cons d ds =>
      rw [hds, List.cons_append, List.cons.injEq] at hcs
      rw [← hcs.1]
      exact isDigit_padded width n d (by rw [hds]; exact List.mem_cons_self)
  rw [scanYear?, trimLeft_padded]
  -- neither sign is a digit
  split
  · next cs hcs => exact absurd (hhead _ cs hcs) (by decide)
  · next cs hcs => exact absurd (hhead _ cs hcs) (by decide)
  · rfl

/-- A year is read whether it is written with a sign or not. -/
theorem scanYear?_yearChars (year : Int) {rest : List Char} (hrest : EndsNumber rest) :
    scanYear? (yearChars year ++ rest) = some (year, rest) := by
  have hread {most : Nat} (hmost : (paddedDigits 4 year.natAbs).length ≤ most) :
      number? most (paddedDigits 4 year.natAbs ++ rest) = some (year.natAbs, rest) := by
    rw [number?_digits (isDigit_padded 4 year.natAbs) (padded_ne_nil 4 year.natAbs) hmost hrest,
      digitsValue_padded]
  have hall : (paddedDigits 4 year.natAbs).length ≤ (paddedDigits 4 year.natAbs ++ rest).length := by
    rw [List.length_append]
    exact Nat.le_add_right _ _
  rw [yearChars]
  -- without a sign only four digits are read, and with one as many as there are
  by_cases hplain : 0 ≤ year ∧ year ≤ 9999
  · have hfits : year.natAbs < 10000 := by omega
    have hfour : (paddedDigits 4 year.natAbs).length ≤ 4 :=
      Nat.le_of_eq (length_padded (by decide) hfits)
    rw [if_pos hplain, scanYear?_padded, hread hfour]
    show some ((year.natAbs : Int), rest) = _
    rw [Int.natAbs_of_nonneg hplain.1]
  · rw [if_neg hplain]
    by_cases hnegative : year < 0
    · rw [if_pos hnegative, List.cons_append, scanYear?_minus, hread hall]
      show some (-(year.natAbs : Int), rest) = _
      rw [Int.ofNat_natAbs_of_nonpos (by omega), Int.neg_neg]
    · rw [if_neg hnegative, List.cons_append, scanYear?_plus, hread hall]
      show some ((year.natAbs : Int), rest) = _
      rw [Int.natAbs_of_nonneg (by omega)]

theorem spacedChar?_dash (rest : List Char) : spacedChar? '-' ('-' :: rest) = some rest :=
  spacedChar?_mark (by decide) rest

theorem scanSpaced?_render {d : Date} (h : d.Exists) {rest : List Char} (hrest : EndsNumber rest) :
    scanSpaced? (d.renderChars ++ rest) = some (d, rest) := by
  obtain ⟨hmonth, hday⟩ := h.lt
  have hdash (cs : List Char) : EndsNumber ('-' :: cs) := endsNumber_cons (by decide) cs
  have hyear (cs : List Char) := scanYear?_yearChars d.year (hdash cs)
  have hmonths (cs : List Char) :
      field? 2 (paddedDigits 2 d.month ++ '-' :: cs) = some (d.month, '-' :: cs) :=
    field?_padded (by decide) hmonth (hdash cs)
  have hdays : field? 2 (paddedDigits 2 d.day ++ rest) = some (d.day, rest) :=
    field?_padded (by decide) hday hrest
  have hfound : ofYMD? d.year d.month d.day = some d := h
  have hchars : d.renderChars ++ rest =
      yearChars d.year ++ '-' :: (paddedDigits 2 d.month ++ '-' :: (paddedDigits 2 d.day ++ rest)) := by
    simp [renderChars]
  simp only [hchars, scanSpaced?, scanWith?, hyear, spacedChar?_dash, hmonths, hdays, hfound,
    Option.bind_eq_bind, Option.bind_some]
  rfl

theorem exists_of_scanSpaced? {cs rest : List Char} {d : Date} (h : scanSpaced? cs = some (d, rest)) :
    d.Exists := by
  rw [scanSpaced?, scanWith?] at h
  obtain ⟨⟨year, cs⟩, -, h⟩ := Option.bind_eq_some_iff.1 h
  obtain ⟨cs, -, h⟩ := Option.bind_eq_some_iff.1 h
  obtain ⟨⟨month, cs⟩, -, h⟩ := Option.bind_eq_some_iff.1 h
  obtain ⟨cs, -, h⟩ := Option.bind_eq_some_iff.1 h
  obtain ⟨⟨day, cs⟩, -, h⟩ := Option.bind_eq_some_iff.1 h
  obtain ⟨found, hfound, h⟩ := Option.bind_eq_some_iff.1 h
  cases h
  exact exists_of_ofYMD? hfound

end Date

/-! ## Date-times -/

namespace LocalDateTime

/-- A date that exists and a time that fields can make up. -/
structure Proper (t : LocalDateTime) : Prop where
  date : t.date.Exists
  time : t.time.Proper

theorem parse?_render {t : LocalDateTime} (h : t.Proper) : parse? t.render = some t := by
  have hdate (cs : List Char) :
      Date.scanSpaced? (t.date.renderChars ++ 'T' :: cs) = some (t.date, 'T' :: cs) :=
    Date.scanSpaced?_render h.date (endsNumber_cons (by decide) cs)
  have hletter (cs : List Char) : spacedChar? 'T' ('T' :: cs) = some cs :=
    spacedChar?_mark (by decide) cs
  simp only [parse?, render, renderWith, String.toList_ofList, hdate, hletter,
    TimeOfDay.renderChars_eq, TimeOfDay.field?_colon t.time.hour_lt, TimeOfDay.spacedChar?_colon,
    TimeOfDay.field?_colon t.time.minute_lt, t.time.scanSeconds?_render,
    TimeOfDay.ofFields?_shown h.time, Option.bind_eq_bind, Option.bind_some]
  rfl

theorem proper_of_parse? {s : String} {t : LocalDateTime} (h : parse? s = some t) : t.Proper := by
  rw [parse?] at h
  obtain ⟨⟨date, cs⟩, hdate, h⟩ := Option.bind_eq_some_iff.1 h
  obtain ⟨cs, -, h⟩ := Option.bind_eq_some_iff.1 h
  obtain ⟨⟨hour, cs⟩, -, h⟩ := Option.bind_eq_some_iff.1 h
  obtain ⟨cs, -, h⟩ := Option.bind_eq_some_iff.1 h
  obtain ⟨⟨minute, cs⟩, -, h⟩ := Option.bind_eq_some_iff.1 h
  simp only at h
  split at h
  · obtain ⟨time, htime, h⟩ := Option.bind_eq_some_iff.1 h
    cases h
    exact ⟨Date.exists_of_scanSpaced? hdate, TimeOfDay.proper_of_ofFields? htime⟩
  · cases h

end LocalDateTime

end EntryGate
