import EntryGate.Proofs.TimeText
import EntryGate.Session.Window
import Mathlib.Data.List.TakeWhile

/-!
# The texts of a time window

A text is read as a window by cutting it at its only dash and reading a time on either side.  The
reader goes through the characters from the left, takes as many digits as it can, and tries hour and
minute before hour, minute and second.  Here its language is given as a grammar, which knows nothing of
an order in which things are tried.

* `Text.FieldText` and `TimeOfDay.Fields` are the numbers of a time as they are written and as they are
  meant, and `TimeWindow.TimeText` is the text of a time;
* `Text.exists_of_field?` and `Text.field?_of_fieldText` say that a number is read if and only if there
  is one; `TimeWindow.hourMinute?_iff` and `TimeWindow.hourMinuteSecond?_iff` do so for the two forms of a
  time, and `TimeWindow.parseTime_eq_ok_iff` for both;
* `TimeWindow.halves?_first` is the cut at the only dash;
* `TimeWindow.parse_grammar` is the window as a whole, with what is said of a text that is none.
-/

namespace EntryGate

namespace Text

/-! ## Numbers -/

/-- One or two digits with any blanks in front of them, and the number that they denote. -/
inductive FieldText : List Char → Nat → Prop where
  | intro {blanks ds : List Char} (blank : ∀ c ∈ blanks, isBlank c = true)
      (digit : ∀ c ∈ ds, c.isDigit = true) (one_le : 1 ≤ ds.length) (le_two : ds.length ≤ 2) :
      FieldText (blanks ++ ds) (digitsValue ds)

/-- What is read as a number is one. -/
theorem exists_of_field? {cs rest : List Char} {n : Nat} (h : field? 2 cs = some (n, rest)) :
    ∃ written, FieldText written n ∧ cs = written ++ rest := by
  have hsplit : cs.takeWhile isBlank ++ trimLeft cs = cs := List.takeWhile_append_dropWhile
  rw [field?, number?] at h
  generalize hds : ((trimLeft cs).takeWhile Char.isDigit).take 2 = ds at h
  split at h
  · cases h
  · next hne =>
    cases h
    -- the digits that were taken are the front of what follows the blanks
    have hprefix : ds <+: trimLeft cs := by
      rw [← hds]
      exact (List.take_prefix 2 _).trans (List.takeWhile_prefix _)
    have hrest : ds ++ (trimLeft cs).drop ds.length = trimLeft cs := by
      obtain ⟨rest, hrest⟩ := hprefix
      rw [← hrest, List.drop_left]
    have hdigit : ∀ c ∈ ds, c.isDigit = true := by
      intro c hc
      rw [← hds] at hc
      exact List.mem_takeWhile_imp (List.mem_of_mem_take hc)
    have hpos : 1 ≤ ds.length := by
      rw [Nat.one_le_iff_ne_zero, ne_eq, List.length_eq_zero_iff, ← List.isEmpty_iff]
      exact hne
    have htwo : ds.length ≤ 2 := by
      rw [← hds]
      exact List.length_take_le 2 _
    have hblank : ∀ c ∈ cs.takeWhile isBlank, isBlank c = true := fun c hc =>
      List.mem_takeWhile_imp hc
    refine ⟨_, .intro hblank hdigit hpos htwo, ?_⟩
    rw [List.append_assoc, hrest, hsplit]

/-- A number is read whatever follows it, as long as that is not another digit. -/
theorem field?_of_fieldText {written rest : List Char} {n : Nat} (h : FieldText written n)
    (hrest : EndsNumber rest) : field? 2 (written ++ rest) = some (n, rest) := by
  cases h with
  | @intro blanks ds hblank hdigit hpos htwo =>
    have hne : ds ≠ [] := List.ne_nil_of_length_pos hpos
    -- the blanks end where the digits begin, since no digit is a blank
    have htrim : trimLeft (blanks ++ ds ++ rest) = ds ++ rest := by
      rw [trimLeft, List.append_assoc, List.dropWhile_append_of_pos hblank]
      cases ds with
      | nil => exact absurd rfl hne
      | cons c ds => exact trimLeft_cons (isBlank_of_isDigit (hdigit c List.mem_cons_self)) _
    rw [field?, htrim, number?_digits hdigit hne htwo hrest]

theorem field?_colon_iff {cs rest : List Char} {n : Nat} :
    field? 2 cs = some (n, ':' :: rest) ↔ ∃ written, FieldText written n ∧ cs = written ++ ':' :: rest := by
  constructor
  · exact exists_of_field?
  · rintro ⟨written, hwritten, rfl⟩
    exact field?_of_fieldText hwritten (endsNumber_cons (by decide) rest)

theorem field?_end_iff {cs : List Char} {n : Nat} : field? 2 cs = some (n, []) ↔ FieldText cs n := by
  constructor
  · intro h
    obtain ⟨written, hwritten, rfl⟩ := exists_of_field? h
    rwa [List.append_nil]
  · intro h
    have hread := field?_of_fieldText h endsNumber_nil
    rwa [List.append_nil] at hread

theorem char?_eq_some_iff {c : Char} {cs rest : List Char} :
    char? c cs = some rest ↔ cs = c :: rest := by
  cases cs with
  | nil => simp [char?]
  | cons d cs => by_cases hd : d = c <;> simp [char?, hd]

/-- There are no marks in a number. -/
theorem FieldText.count_eq_zero {written : List Char} {n : Nat} (h : FieldText written n) {mark : Char}
    (hblank : isBlank mark = false) (hdigit : mark.isDigit = false) : written.count mark = 0 := by
  cases h with
  | @intro blanks ds hblanks hds _ _ =>
    rw [List.count_eq_zero, List.mem_append]
    rintro (hmem | hmem)
    · rw [hblanks mark hmem] at hblank
      cases hblank
    · rw [hds mark hmem] at hdigit
      cases hdigit

end Text

open Text

/-! ## Times -/

namespace TimeOfDay

/-- The time has the given hour, minute and second.  Second 60 is the leap second of its minute, which
comes after second 59. -/
structure Fields (t : TimeOfDay) (hour minute second : Nat) : Prop where
  hour_le : hour ≤ 23
  minute_le : minute ≤ 59
  second_le : second ≤ 60
  seconds_eq : t.seconds = hour * 3600 + minute * 60 + min second 59
  nanos_eq : t.nanos = if second = 60 then 1000000000 else 0

theorem ofFields?_eq_some_iff {hour minute second : Nat} {t : TimeOfDay} :
    ofFields? hour minute second 0 = some t ↔ t.Fields hour minute second := by
  constructor
  · intro h
    rw [ofFields?, Option.dite_none_right_eq_some] at h
    obtain ⟨⟨hhour, hminute, hsecond, _⟩, h⟩ := h
    by_cases hleap : second = 60
    · rw [if_pos hleap] at h
      cases h
      exact ⟨hhour, hminute, hsecond, by simp [hleap], by simp [hleap]⟩
    · have hplain : second ≤ 59 := by omega
      rw [if_neg hleap, dif_pos hplain] at h
      cases h
      exact ⟨hhour, hminute, hsecond, by simp [hplain], by simp [hleap]⟩
  · rintro ⟨hhour, hminute, hsecond, hseconds, hnanos⟩
    -- there is only one time with these fields, so the one that is made is `t`
    rw [ofFields?, dif_pos ⟨hhour, hminute, hsecond, by decide⟩]
    by_cases hleap : second = 60
    · rw [if_pos hleap]
      refine congrArg some (rank_injective ?_)
      rw [rank, rank, hseconds, hnanos, if_pos hleap, Nat.min_eq_right (by omega)]
    · have hplain : second ≤ 59 := by omega
      rw [if_neg hleap, dif_pos hplain]
      refine congrArg some (rank_injective ?_)
      rw [rank, rank, hseconds, hnanos, if_neg hleap, Nat.min_eq_left hplain]

end TimeOfDay

namespace TimeWindow

/-- The text of a time: hour and minute, or hour, minute and second, with colons between them. -/
inductive TimeText : List Char → TimeOfDay → Prop where
  | hourMinute {h m : List Char} {hour minute : Nat} {t : TimeOfDay} :
      FieldText h hour → FieldText m minute → t.Fields hour minute 0 → TimeText (h ++ ':' :: m) t
  | hourMinuteSecond {h m s : List Char} {hour minute second : Nat} {t : TimeOfDay} :
      FieldText h hour → FieldText m minute → FieldText s second → t.Fields hour minute second →
        TimeText (h ++ ':' :: (m ++ ':' :: s)) t

theorem hourMinute?_iff {cs : List Char} {t : TimeOfDay} :
    hourMinute? cs = some t ↔ ∃ h m hour minute, cs = h ++ ':' :: m ∧ FieldText h hour ∧
      FieldText m minute ∧ t.Fields hour minute 0 := by
  simp only [hourMinute?, Option.bind_eq_bind, Option.bind_eq_some_iff, Prod.exists,
    char?_eq_some_iff]
  constructor
  · rintro ⟨hour, _, hhour, rest, rfl, minute, rest', hminute, ht⟩
    -- a minute with anything behind it is refused
    cases rest' with
    | cons c cs => cases ht
    | nil =>
      obtain ⟨h, hh, rfl⟩ := field?_colon_iff.1 hhour
      exact ⟨h, rest, hour, minute, rfl, hh, field?_end_iff.1 hminute,
        TimeOfDay.ofFields?_eq_some_iff.1 ht⟩
  · rintro ⟨h, m, hour, minute, rfl, hh, hm, ht⟩
    exact ⟨hour, _, field?_colon_iff.2 ⟨h, hh, rfl⟩, m, rfl, minute, [], field?_end_iff.2 hm,
      TimeOfDay.ofFields?_eq_some_iff.2 ht⟩

theorem hourMinuteSecond?_iff {cs : List Char} {t : TimeOfDay} :
    hourMinuteSecond? cs = some t ↔ ∃ h m s hour minute second,
      cs = h ++ ':' :: (m ++ ':' :: s) ∧ FieldText h hour ∧ FieldText m minute ∧
        FieldText s second ∧ t.Fields hour minute second := by
  simp only [hourMinuteSecond?, Option.bind_eq_bind, Option.bind_eq_some_iff, Prod.exists,
    char?_eq_some_iff]
  constructor
  · rintro ⟨hour, _, hhour, _, rfl, minute, _, hminute, rest, rfl, second, rest', hsecond, ht⟩
    cases rest' with
    | cons c cs => cases ht
    | nil =>
      obtain ⟨h, hh, rfl⟩ := field?_colon_iff.1 hhour
      obtain ⟨m, hm, rfl⟩ := field?_colon_iff.1 hminute
      exact ⟨h, m, rest, hour, minute, second, rfl, hh, hm, field?_end_iff.1 hsecond,
        TimeOfDay.ofFields?_eq_some_iff.1 ht⟩
  · rintro ⟨h, m, s, hour, minute, second, rfl, hh, hm, hs, ht⟩
    exact ⟨hour, _, field?_colon_iff.2 ⟨h, hh, rfl⟩, _, rfl, minute, _,
      field?_colon_iff.2 ⟨m, hm, rfl⟩, s, rfl, second, [], field?_end_iff.2 hs,
      TimeOfDay.ofFields?_eq_some_iff.2 ht⟩

/-- The form that is tried first does not take away a text from the other one. -/
theorem hourMinute?_eq_none {cs : List Char} {t : TimeOfDay} (h : hourMinuteSecond? cs = some t) :
    hourMinute? cs = none := by
  obtain ⟨h₁, m₁, s₁, hour, minute, second, rfl, hh, hm, hs, -⟩ := hourMinuteSecond?_iff.1 h
  cases hshort : hourMinute? (h₁ ++ ':' :: (m₁ ++ ':' :: s₁)) with
  | none => rfl
  | some t' =>
    -- one form has a single colon, the other one has two
    obtain ⟨h₂, m₂, _, _, heq, hh', hm', -⟩ := hourMinute?_iff.1 hshort
    have hcolon {written : List Char} {n : Nat} (hf : FieldText written n) : written.count ':' = 0 :=
      hf.count_eq_zero (by decide) (by decide)
    have hcount := congrArg (List.count ':') heq
    simp only [List.count_append, List.count_cons_self, hcolon hh, hcolon hm, hcolon hs, hcolon hh',
      hcolon hm'] at hcount
    omega

theorem parseTime_eq_ok_iff {part : List Char} {t : TimeOfDay} :
    parseTime part = .ok t ↔ TimeText (trimChars part) t := by
  have hread : parseTime part = .ok t ↔
      hourMinute? (trimChars part) = some t ∨ hourMinuteSecond? (trimChars part) = some t := by
    rw [parseTime]
    cases hshort : hourMinute? (trimChars part) with
    | some t' =>
      -- no text has both forms, so it does not matter which one is tried first
      have hlong : hourMinuteSecond? (trimChars part) = none := by
        cases hlong : hourMinuteSecond? (trimChars part) with
        | none => rfl
        | some t'' =>
          rw [hourMinute?_eq_none hlong] at hshort
          cases hshort
      simp [hlong]
    | none => cases hlong : hourMinuteSecond? (trimChars part) <;> simp
  rw [hread, hourMinute?_iff, hourMinuteSecond?_iff]
  constructor
  · rintro (⟨h, m, hour, minute, heq, hh, hm, ht⟩ | ⟨h, m, s, hour, minute, second, heq, hh, hm, hs, ht⟩)
    · rw [heq]
      exact .hourMinute hh hm ht
    · rw [heq]
      exact .hourMinuteSecond hh hm hs ht
  · generalize trimChars part = cs
    rintro (⟨hh, hm, ht⟩ | ⟨hh, hm, hs, ht⟩)
    · exact .inl ⟨_, _, _, _, rfl, hh, hm, ht⟩
    · exact .inr ⟨_, _, _, _, _, _, rfl, hh, hm, hs, ht⟩

/-- A part that is no time is named in the error, without the blanks around it. -/
theorem parseTime_of_not_time {part : List Char} (h : ¬∃ t, TimeText (trimChars part) t) :
    parseTime part = .error (.time (String.ofList (trimChars part))) := by
  cases hread : parseTime part with
  | ok t => exact absurd ⟨t, parseTime_eq_ok_iff.1 hread⟩ h
  | error e =>
    rw [parseTime] at hread
    split at hread
    · cases hread
    · exact hread.symm

/-! ## Windows -/

/-- The cut is made at the first dash, if no other one follows. -/
theorem halves?_first {before : List Char} (h : '-' ∉ before) (after : List Char) :
    halves? (before ++ '-' :: after) = if '-' ∈ after then none else some (before, after) := by
  have hno : ∀ c ∈ before, (c != '-') = true := by
    intro c hc
    rw [bne_iff_ne]
    rintro rfl
    exact h hc
  rw [halves?, List.dropWhile_append_of_pos hno, List.takeWhile_append_of_pos hno]
  simp

theorem halves?_of_count_ne {cs : List Char} (h : cs.count '-' ≠ 1) : halves? cs = none := by
  by_cases hmem : '-' ∈ cs
  · -- there is a first dash, so it must be a second one that spoils the count
    obtain ⟨before, after, rfl, hbefore⟩ := List.eq_append_cons_of_mem hmem
    have hsecond : '-' ∈ after := by
      rw [List.count_append, List.count_cons_self, List.count_eq_zero.2 hbefore] at h
      exact List.count_pos_iff.1 (by omega)
    rw [halves?_first hbefore, if_pos hsecond]
  · have hnone : cs.dropWhile (fun c => c != '-') = [] := by
      rw [List.dropWhile_eq_nil_iff]
      intro c hc
      rw [bne_iff_ne]
      rintro rfl
      exact hmem hc
    rw [halves?, hnone]

theorem exists_halves_of_count {cs : List Char} (h : cs.count '-' = 1) :
    ∃ before after, cs = before ++ '-' :: after ∧ halves? cs = some (before, after) := by
  have hmem : '-' ∈ cs := List.count_pos_iff.1 (by omega)
  obtain ⟨before, after, rfl, hbefore⟩ := List.eq_append_cons_of_mem hmem
  have honly : '-' ∉ after := by
    rw [List.count_append, List.count_cons_self, List.count_eq_zero.2 hbefore] at h
    exact List.count_eq_zero.1 (by omega)
  exact ⟨before, after, rfl, by rw [halves?_first hbefore, if_neg honly]⟩

section Halves

variable {text : String} {before after : List Char}
  (hhalves : halves? (trimChars text.toList) = some (before, after))

include hhalves

theorem parse_of_halves :
    parse text =
      (parseTime before).bind fun start => (parseTime after).bind fun finish => .ok ⟨start, finish⟩ := by
  rw [parse, hhalves]
  rfl

theorem parse_eq_ok_iff {w : TimeWindow} :
    parse text = .ok w ↔ TimeText (trimChars before) w.start ∧ TimeText (trimChars after) w.finish := by
  rw [parse_of_halves hhalves, ← parseTime_eq_ok_iff, ← parseTime_eq_ok_iff]
  cases parseTime before with
  | error e => simp [Except.bind]
  | ok start =>
    cases parseTime after with
    | error e => simp [Except.bind]
    | ok finish =>
      obtain ⟨start', finish'⟩ := w
      simp [Except.bind]

/-- The error is that of the first part that is no time. -/
theorem parse_eq_error_iff {e : WindowError} :
    parse text = .error e ↔
      (¬∃ t, TimeText (trimChars before) t) ∧ e = .time (String.ofList (trimChars before)) ∨
        (∃ t, TimeText (trimChars before) t) ∧ (¬∃ t, TimeText (trimChars after) t) ∧
          e = .time (String.ofList (trimChars after)) := by
  rw [parse_of_halves hhalves]
  -- the second part is only looked at if the first one is a time
  by_cases hstart : ∃ t, TimeText (trimChars before) t
  · obtain ⟨start, hread⟩ := hstart
    rw [parseTime_eq_ok_iff.2 hread]
    by_cases hfinish : ∃ t, TimeText (trimChars after) t
    · obtain ⟨finish, hread'⟩ := hfinish
      rw [parseTime_eq_ok_iff.2 hread']
      simp [Except.bind, Exists.intro start hread, Exists.intro finish hread']
    · rw [parseTime_of_not_time hfinish]
      simp [Except.bind, Exists.intro start hread, hfinish, eq_comm]
  · rw [parseTime_of_not_time hstart]
    simp [Except.bind, hstart, eq_comm]

end Halves

/-- A text is refused as a whole, blanks included, exactly if there is not one dash in it once it is
trimmed.  Otherwise it is cut there and the halves are trimmed: it is the text of a window exactly if
both of them are texts of times, and then of the window between these times; else the first half that
is not is named. -/
theorem parse_grammar (text : String) :
    (∀ shown, parse text = .error (.shape shown) ↔
        (trimChars text.toList).count '-' ≠ 1 ∧ shown = text) ∧
      ∀ before after, trimChars text.toList = before ++ '-' :: after → '-' ∉ before → '-' ∉ after →
        (∀ w, parse text = .ok w ↔
            TimeText (trimChars before) w.start ∧ TimeText (trimChars after) w.finish) ∧
          ∀ part, parse text = .error (.time part) ↔
            (¬∃ t, TimeText (trimChars before) t) ∧ part = String.ofList (trimChars before) ∨
              (∃ t, TimeText (trimChars before) t) ∧ (¬∃ t, TimeText (trimChars after) t) ∧
                part = String.ofList (trimChars after) := by
  constructor
  · intro shown
    by_cases hcount : (trimChars text.toList).count '-' = 1
    · obtain ⟨before, after, -, hhalves⟩ := exists_halves_of_count hcount
      rw [parse_eq_error_iff hhalves]
      simp [hcount]
    · rw [parse, halves?_of_count_ne hcount]
      simp [hcount, eq_comm]
  · intro before after htext hbefore hafter
    have hhalves : halves? (trimChars text.toList) = some (before, after) := by
      rw [htext, halves?_first hbefore, if_neg hafter]
    refine ⟨fun w => parse_eq_ok_iff hhalves, ?_⟩
    intro part
    rw [parse_eq_error_iff hhalves, WindowError.time.injEq, WindowError.time.injEq]

/-- Blanks around the text, around its parts and within them, numbers of one and of two digits, and a
leap second.  The same text with the hour 24 is refused for its second part, and with another dash as a
whole. -/
theorem parse_grammar_of_blanks :
    parse "\t7: 5 - 23:59:60 " =
        .ok ⟨⟨25500, 0, by decide, by decide⟩, ⟨86399, 1000000000, by decide, by decide⟩⟩ ∧
      parse "\t7: 5 - 24:59:60 " = .error (.time "24:59:60") ∧
      parse "\t7: 5 -- 23:59:60 " = .error (.shape "\t7: 5 -- 23:59:60 ") := by
  have htwo {c d : Char} (hc : c.isDigit = true) (hd : d.isDigit = true) :
      FieldText [c, d] (digitsValue [c, d]) :=
    @FieldText.intro [] [c, d] (by simp) (by simp [hc, hd]) (by simp) (Nat.le_refl 2)
  have hseven : FieldText ['7'] 7 :=
    @FieldText.intro [] ['7'] (List.forall_mem_nil _) (List.forall_mem_singleton.2 rfl) (by decide)
      (by decide)
  have hfive : FieldText [' ', '5'] 5 :=
    @FieldText.intro [' '] ['5'] (List.forall_mem_singleton.2 rfl) (List.forall_mem_singleton.2 rfl)
      (by decide) (by decide)
  have hstart : TimeText (trimChars ['7', ':', ' ', '5', ' '])
      ⟨25500, 0, by decide, by decide⟩ :=
    .hourMinute hseven hfive ⟨by decide, by decide, by decide, rfl, rfl⟩
  have hfinish : TimeText (trimChars [' ', '2', '3', ':', '5', '9', ':', '6', '0'])
      ⟨86399, 1000000000, by decide, by decide⟩ :=
    .hourMinuteSecond (htwo (c := '2') (d := '3') rfl rfl) (htwo (c := '5') (d := '9') rfl rfl)
      (htwo (c := '6') (d := '0') rfl rfl) ⟨by decide, by decide, by decide, rfl, rfl⟩
  have hlate : ¬∃ t, TimeText (trimChars [' ', '2', '4', ':', '5', '9', ':', '6', '0']) t := by
    rintro ⟨t, ht⟩
    have hread : parseTime [' ', '2', '4', ':', '5', '9', ':', '6', '0'] =
        .error (.time "24:59:60") := by decide
    rw [parseTime_eq_ok_iff.2 ht] at hread
    cases hread
  refine ⟨?_, ?_, ?_⟩
  · obtain ⟨hok, -⟩ := (parse_grammar "\t7: 5 - 23:59:60 ").2 ['7', ':', ' ', '5', ' ']
      [' ', '2', '3', ':', '5', '9', ':', '6', '0'] (by decide) (by decide) (by decide)
    exact (hok _).2 ⟨hstart, hfinish⟩
  · obtain ⟨-, herror⟩ := (parse_grammar "\t7: 5 - 24:59:60 ").2 ['7', ':', ' ', '5', ' ']
      [' ', '2', '4', ':', '5', '9', ':', '6', '0'] (by decide) (by decide) (by decide)
    exact (herror _).2 (.inr ⟨⟨_, hstart⟩, hlate, by decide⟩)
  · exact ((parse_grammar "\t7: 5 -- 23:59:60 ").1 _).2 ⟨by decide, rfl⟩

end TimeWindow
end EntryGate
