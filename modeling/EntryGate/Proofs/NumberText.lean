import EntryGate.Decimal.Text
import EntryGate.Text.Scan
import Mathlib.Tactic.Common

/-!
# Numbers as text

What is written for a number can be read again, whatever follows it, as long as that does not begin
with another digit.

* `Text.number?_digits` and `Text.field?_padded` are the readers for runs of digits;
* `Decimal.scanFraction?_digits` and `Decimal.scanWhole?_digits` are the two loops that read a decimal;
* `Decimal.parse?_render` is the decimal as a whole.  Reading gives back the sign, the digits and the
  scale that were written, except for the minus sign of a zero.
-/

namespace EntryGate

namespace Text

/-! ## Runs of digits -/

/-- The number that digits denote after a number that has been read already. -/
def digitsAfter (n : Nat) (ds : List Char) : Nat :=
  ds.foldl (fun n c => 10 * n + digitValue c) n

theorem digitsAfter_append (n : Nat) (ds es : List Char) :
    digitsAfter n (ds ++ es) = digitsAfter (digitsAfter n ds) es :=
  List.foldl_append

theorem digitsAfter_zeros (k : Nat) : digitsAfter 0 (List.replicate k '0') = 0 := by
  induction k with
  | zero => rfl
  | succ k ih => exact ih

theorem le_digitsAfter (n : Nat) (ds : List Char) : n ≤ digitsAfter n ds := by
  induction ds generalizing n with
  | nil => exact Nat.le_refl n
  | cons c ds ih =>
    calc
      n ≤ 10 * n + digitValue c := by omega
      _ ≤ digitsAfter n (c :: ds) := ih (10 * n + digitValue c)

theorem digitsValue_digits (n : Nat) : digitsValue (digits n) = n :=
  Nat.ofDigitChars_toDigits (by decide) (by decide)

theorem digitsValue_padded (width n : Nat) : digitsValue (paddedDigits width n) = n := by
  show digitsAfter 0 (paddedDigits width n) = n
  rw [paddedDigits, digitsAfter_append, digitsAfter_zeros]
  exact digitsValue_digits n

theorem isDigit_padded (width n : Nat) : ∀ c ∈ paddedDigits width n, c.isDigit = true := by
  intro c hc
  rcases List.mem_append.1 hc with hzero | hdigit
  · rw [List.eq_of_mem_replicate hzero]
    decide
  · exact Nat.isDigit_of_mem_toDigits (by decide) (by decide) hdigit

theorem padded_ne_nil (width n : Nat) : paddedDigits width n ≠ [] := by
  intro hnil
  exact Nat.toDigits_ne_nil (List.append_eq_nil_iff.1 hnil).2

theorem le_length_padded (width n : Nat) : width ≤ (paddedDigits width n).length := by
  rw [paddedDigits, List.length_append, List.length_replicate]
  omega

/-- A number that fits has as many digits as it is padded to. -/
theorem length_padded {width n : Nat} (hwidth : 0 < width) (h : n < power 10 width) :
    (paddedDigits width n).length = width := by
  have hlength : (digits n).length ≤ width := (Nat.length_toDigits_le_iff (by decide) hwidth).2 h
  rw [paddedDigits, List.length_append, List.length_replicate]
  omega

/-! ## Readers -/

/-- A text that a number can be followed by. -/
def EndsNumber (rest : List Char) : Prop :=
  ∀ c ∈ rest.head?, c.isDigit = false

theorem endsNumber_nil : EndsNumber [] := by
  intro c hc
  cases hc

theorem endsNumber_cons {c : Char} (h : c.isDigit = false) (rest : List Char) :
    EndsNumber (c :: rest) := by
  intro d hd
  cases hd
  exact h

theorem takeWhile_digits {ds rest : List Char} (hds : ∀ c ∈ ds, c.isDigit = true)
    (hrest : EndsNumber rest) : (ds ++ rest).takeWhile Char.isDigit = ds := by
  rw [List.takeWhile_append_of_pos hds]
  cases rest with
  | nil => exact List.append_nil ds
  | cons c rest => rw [List.takeWhile_cons_of_neg (by simp [hrest c rfl]), List.append_nil]

/-- All digits are read, if there are not more of them than asked for. -/
theorem number?_digits {most : Nat} {ds rest : List Char} (hds : ∀ c ∈ ds, c.isDigit = true)
    (hne : ds ≠ []) (hmost : ds.length ≤ most) (hrest : EndsNumber rest) :
    number? most (ds ++ rest) = some (digitsValue ds, rest) := by
  rw [number?, takeWhile_digits hds hrest, List.take_of_length_le hmost]
  simp [hne]

theorem isBlank_of_isDigit {c : Char} (h : c.isDigit = true) : isBlank c = false := by
  have hrange : 48 ≤ c.toNat ∧ c.toNat ≤ 57 := Char.isDigit_iff_toNat.1 h
  simp only [isBlank, Bool.or_eq_false_iff, Bool.and_eq_false_iff, decide_eq_false_iff_not,
    beq_eq_false_iff_ne]
  omega

theorem trimLeft_cons {c : Char} (h : isBlank c = false) (cs : List Char) :
    trimLeft (c :: cs) = c :: cs :=
  List.dropWhile_cons_of_neg (by simp [h])

/-- A mark is read where it stands. -/
theorem spacedChar?_mark {c : Char} (h : isBlank c = false) (cs : List Char) :
    spacedChar? c (c :: cs) = some cs := by
  rw [spacedChar?, trimLeft_cons h, char?, if_pos rfl]

theorem trimLeft_padded (width n : Nat) (rest : List Char) :
    trimLeft (paddedDigits width n ++ rest) = paddedDigits width n ++ rest := by
  cases hds : paddedDigits width n with
  | nil => exact absurd hds (padded_ne_nil width n)
  | cons c ds =>
    have hc : c.isDigit = true := isDigit_padded width n c (by rw [hds]; exact List.mem_cons_self)
    exact trimLeft_cons (isBlank_of_isDigit hc) (ds ++ rest)

theorem field?_padded {width n : Nat} (hwidth : 0 < width) (h : n < power 10 width) {rest : List Char}
    (hrest : EndsNumber rest) : field? width (paddedDigits width n ++ rest) = some (n, rest) := by
  rw [field?, trimLeft_padded,
    number?_digits (isDigit_padded width n) (padded_ne_nil width n)
      (Nat.le_of_eq (length_padded hwidth h)) hrest,
    digitsValue_padded]

end Text

open Text

namespace Decimal

/-! ## Reading the digits of a decimal -/

/-- The fraction digits that fit are all kept. -/
theorem scanFraction?_digits {ds : List Char} (hds : ∀ c ∈ ds, c.isDigit = true) {n scale : Nat}
    (hscale : scale + ds.length ≤ 28) (hn : digitsAfter n ds < power 2 96) :
    scanFraction? ds n scale true = some (digitsAfter n ds, scale + ds.length) := by
  induction ds generalizing n scale with
  | nil => rfl
  | cons c ds ih =>
    rw [List.length_cons] at hscale ⊢
    have hc : c.isDigit = true := hds c List.mem_cons_self
    have hrest : ∀ d ∈ ds, d.isDigit = true := fun d hd => hds d (List.mem_cons_of_mem c hd)
    have hnext : digitsAfter (10 * n + digitValue c) ds < power 2 96 := hn
    have hroom : scale < 28 ∧ 10 * n + digitValue c < power 2 96 :=
      ⟨by omega, Nat.lt_of_le_of_lt (le_digitsAfter _ ds) hnext⟩
    rw [scanFraction?, if_pos hc, if_pos hroom]
    -- the loop stops early once the scale is used up and the number is small
    by_cases hsmall : scale = 27 ∧ isSmall n
    · -- the twenty-eighth digit is the last one
      have hlast : ds = [] := List.length_eq_zero_iff.1 (by omega)
      rw [if_pos hsmall, hlast, hsmall.1]
      rfl
    · rw [if_neg hsmall, ih hrest (by omega) hnext]
      show some (digitsAfter n (c :: ds), scale + 1 + ds.length) = _
      rw [Nat.add_right_comm, Nat.add_assoc]

/-- The digits before the point are read up to what follows them. -/
theorem scanWhole?_digits {ds : List Char} (hds : ∀ c ∈ ds, c.isDigit = true) {n : Nat} {seen : Bool}
    (hn : digitsAfter n ds < power 2 96) (rest : List Char) :
    scanWhole? (ds ++ rest) n seen = scanWhole? rest (digitsAfter n ds) (seen || !ds.isEmpty) := by
  induction ds generalizing n seen with
  | nil => simp [digitsAfter]
  | cons c ds ih =>
    have hc : c.isDigit = true := hds c List.mem_cons_self
    have hrest : ∀ d ∈ ds, d.isDigit = true := fun d hd => hds d (List.mem_cons_of_mem c hd)
    have hnext : digitsAfter (10 * n + digitValue c) ds < power 2 96 := hn
    have hroom : 10 * n + digitValue c < power 2 96 :=
      Nat.lt_of_le_of_lt (le_digitsAfter _ ds) hnext
    rw [List.cons_append, scanWhole?, if_pos hc, if_pos hroom, ih hrest hnext]
    simp [digitsAfter]

/-! ## Reading what is written -/

/-- The digits that are written, with the point where the scale puts it. -/
def unsignedChars (a : Decimal) : List Char :=
  let ds := paddedDigits (a.scale + 1) a.digits
  ds.take (ds.length - a.scale) ++
    (if a.scale = 0 then [] else '.' :: ds.drop (ds.length - a.scale))

theorem renderChars_eq (a : Decimal) :
    a.renderChars = (if a.negative then ['-'] else []) ++ a.unsignedChars :=
  List.append_assoc _ _ _

theorem scanWhole?_unsignedChars (a : Decimal) :
    scanWhole? a.unsignedChars 0 false = some (a.digits, a.scale) := by
  have hlength := le_length_padded (a.scale + 1) a.digits
  have hdigits := isDigit_padded (a.scale + 1) a.digits
  have hvalue : digitsAfter 0 (paddedDigits (a.scale + 1) a.digits) = a.digits :=
    digitsValue_padded (a.scale + 1) a.digits
  rw [unsignedChars]
  generalize paddedDigits (a.scale + 1) a.digits = ds at hlength hdigits hvalue
  -- the digits before the point and those after it
  have hwhole : ∀ c ∈ ds.take (ds.length - a.scale), c.isDigit = true := fun c hc =>
    hdigits c (List.mem_of_mem_take hc)
  have hfraction : ∀ c ∈ ds.drop (ds.length - a.scale), c.isDigit = true := fun c hc =>
    hdigits c (List.mem_of_mem_drop hc)
  have hsplit : digitsAfter (digitsAfter 0 (ds.take (ds.length - a.scale)))
      (ds.drop (ds.length - a.scale)) = a.digits := by
    rw [← digitsAfter_append, List.take_append_drop, hvalue]
  have hseen : (ds.take (ds.length - a.scale)).isEmpty = false := by
    rw [List.isEmpty_eq_false_iff, ← List.length_pos_iff, List.length_take]
    omega
  -- the number only grows, so the first part of it fits as all of it does
  have hbound : digitsAfter 0 (ds.take (ds.length - a.scale)) < power 2 96 := by
    calc
      digitsAfter 0 (ds.take (ds.length - a.scale)) ≤ a.digits := by
        rw [← hsplit]
        exact le_digitsAfter _ _
      _ < power 2 96 := a.digits_lt
  rw [scanWhole?_digits hwhole hbound, hseen]
  by_cases hscale : a.scale = 0
  · rw [if_pos hscale]
    rw [hscale, Nat.sub_zero, List.take_length, hvalue]
    rfl
  · have hcount : (ds.drop (ds.length - a.scale)).length = a.scale := by
      rw [List.length_drop]
      omega
    have hlt : digitsAfter (digitsAfter 0 (ds.take (ds.length - a.scale)))
        (ds.drop (ds.length - a.scale)) < power 2 96 := by
      rw [hsplit]
      exact a.digits_lt
    rw [if_neg hscale]
    show scanFraction? _ _ 0 true = _
    rw [scanFraction?_digits hfraction (by have := a.scale_le; omega) hlt, hsplit, hcount,
      Nat.zero_add]

theorem ofDigits?_eq (a : Decimal) (negative : Bool) :
    ofDigits? negative a.digits a.scale = some { a with negative := negative } :=
  dif_pos ⟨a.digits_lt, a.scale_le⟩

/-- Without a sign in front, all characters are digits and marks. -/
theorem parsePlain?_unsignedChars (a : Decimal) :
    parsePlain? a.unsignedChars = ofParts? a.digits a.scale := by
  -- a text with a sign in front cannot be scanned, and this one can
  have hscan := scanWhole?_unsignedChars a
  have hminus : ∀ rest, a.unsignedChars ≠ '-' :: rest := by
    intro rest hchars
    rw [hchars] at hscan
    cases hscan
  have hplus : ∀ rest, a.unsignedChars ≠ '+' :: rest := by
    intro rest hchars
    rw [hchars] at hscan
    cases hscan
  rw [parsePlain?, hscan]
  · rfl
  · exact hminus
  · exact hplus

theorem parsePlain?_render (a : Decimal) : parsePlain? a.renderChars = some a.unsignedZero := by
  rw [renderChars_eq]
  cases hnegative : a.negative with
  | true =>
    have hsign : decide (-(a.digits : Int) < 0) = (a.digits != 0) := by
      rw [Bool.eq_iff_iff, decide_eq_true_iff, bne_iff_ne]
      omega
    show (scanWhole? a.unsignedChars 0 false).bind _ = _
    rw [scanWhole?_unsignedChars]
    show ofDigits? (decide (-(a.digits : Int) < 0)) (-(a.digits : Int)).natAbs a.scale = _
    rw [Int.natAbs_neg, Int.natAbs_natCast, ofDigits?_eq, unsignedZero, hnegative, hsign,
      Bool.true_and]
  | false =>
    have hsign : decide ((a.digits : Int) < 0) = false := by simp
    show parsePlain? a.unsignedChars = _
    rw [parsePlain?_unsignedChars, ofParts?, Int.natAbs_natCast, ofDigits?_eq, unsignedZero,
      hnegative, hsign, Bool.false_and]

theorem parse?_render (a : Decimal) : parse? a.render = some a.unsignedZero := by
  rw [parse?, render, String.toList_ofList, parsePlain?_render]

end Decimal
end EntryGate
