import EntryGate.Proofs.WindowText

/-!
# Writing a window and reading it again

A window is written with two digits for every number, without seconds where they are zero, and with
second 59 for a leap second.  What is written for it is read as a window again, whatever the window:
only the fractions of its seconds are lost, and a leap second is nothing but a fraction beyond the last
second of its minute.

* `TimeWindow.parse_render` says what is read, for every window;
* `TimeOfDay.withoutLeap` puts second 59 in the place of a leap second.  For times made of fields it is
  the same as leaving out the fraction (`TimeOfDay.Fields.wholeSecond_eq`);
* `TimeWindow.render_reads_back` is the round trip of the windows that were read before.
-/

namespace EntryGate

namespace Text

/-- Where there are no blanks, none are dropped. -/
theorem trimChars_of_no_blank {cs : List Char} (h : ∀ c ∈ cs, isBlank c = false) :
    trimChars cs = cs := by
  have hleft {cs : List Char} (h : ∀ c ∈ cs, isBlank c = false) : trimLeft cs = cs := by
    cases cs with
    | nil => rfl
    | cons c cs => exact trimLeft_cons (h c List.mem_cons_self) cs
  have hreverse : ∀ c ∈ cs.reverse, isBlank c = false := by
    intro c hc
    exact h c (List.mem_reverse.1 hc)
  rw [trimChars, hleft h, hleft hreverse, List.reverse_reverse]

theorem fieldText_padded {n : Nat} (h : n < 100) : FieldText (paddedDigits 2 n) n := by
  have hlength : (paddedDigits 2 n).length = 2 := length_padded (by decide) h
  have htext : FieldText ([] ++ paddedDigits 2 n) (digitsValue (paddedDigits 2 n)) :=
    .intro (by simp) (isDigit_padded 2 n) (by omega) (by omega)
  rwa [digitsValue_padded, List.nil_append] at htext

end Text

open Text

namespace TimeOfDay

/-- The second that a time lies in, from its beginning. -/
def wholeSecond (t : TimeOfDay) : TimeOfDay :=
  ⟨t.seconds, 0, t.seconds_lt, Nat.zero_lt_of_lt t.nanos_lt⟩

theorem wholeSecond_of_nanos {t : TimeOfDay} (h : t.nanos = 0) : t.wholeSecond = t := by
  obtain ⟨seconds, nanos, _, _⟩ := t
  cases h
  rfl

theorem second_lt (t : TimeOfDay) : t.second < 60 := by
  rw [second]
  omega

theorem fields_wholeSecond (t : TimeOfDay) : t.wholeSecond.Fields t.hour t.minute t.second := by
  have hseconds := t.seconds_lt
  have hsecond := t.second_lt
  refine ⟨?_, ?_, by omega, ?_, ?_⟩
  · rw [hour]
    omega
  · rw [minute]
    omega
  · show t.seconds = _
    rw [Nat.min_eq_left (by omega), hour, minute, second]
    omega
  · rw [if_neg (by omega)]
    rfl

/-- The last second of a minute is one of the day. -/
theorem lastSecond_lt (t : TimeOfDay) : t.hour * 3600 + t.minute * 60 + 59 < 86400 := by
  have hseconds := t.seconds_lt
  rw [hour, minute]
  omega

/-- Second 59 of its minute in the place of a leap second, and any other time as it is. -/
def withoutLeap (t : TimeOfDay) : TimeOfDay :=
  if t.isLeap then
    ⟨t.hour * 3600 + t.minute * 60 + 59, 0, t.lastSecond_lt, Nat.zero_lt_of_lt t.nanos_lt⟩
  else t

theorem withoutLeap_eq_self_iff (t : TimeOfDay) : t.withoutLeap = t ↔ t.isLeap = false := by
  cases hleap : t.isLeap with
  | false => simp [withoutLeap, hleap]
  | true =>
    -- the fraction of a leap second is a whole second or more, and second 59 has none
    have hnanos : 1000000000 ≤ t.nanos := of_decide_eq_true hleap
    rw [withoutLeap, if_pos hleap]
    refine iff_of_false ?_ (by decide)
    intro heq
    rw [← heq] at hnanos
    have hzero : 1000000000 ≤ 0 := hnanos
    exact absurd hzero (by decide)

/-- A time with a whole number of seconds loses nothing but its leap second. -/
theorem Fields.wholeSecond_eq {t : TimeOfDay} {hour minute second : Nat}
    (h : t.Fields hour minute second) : t.wholeSecond = t.withoutLeap := by
  obtain ⟨hhour, hminute, hsecond, hseconds, hnanos⟩ := h
  rw [withoutLeap]
  by_cases hlast : second = 60
  · -- the seconds of a leap second are those of second 59 already
    have hleap : t.isLeap = true := by simp [isLeap, hnanos, hlast]
    have hsum : t.hour * 3600 + t.minute * 60 + 59 = t.seconds := by
      rw [TimeOfDay.hour, TimeOfDay.minute]
      omega
    rw [if_pos hleap]
    refine rank_injective ?_
    show t.seconds * 2000000000 + 0 = (t.hour * 3600 + t.minute * 60 + 59) * 2000000000 + 0
    rw [hsum]
  · have hzero : t.nanos = 0 := by rw [hnanos, if_neg hlast]
    have hleap : ¬t.isLeap = true := by simp [isLeap, hzero]
    rw [if_neg hleap, wholeSecond_of_nanos hzero]

end TimeOfDay

namespace TimeWindow

/-! ## What is written -/

theorem timeText_shortChars (t : TimeOfDay) : TimeText t.shortChars t.wholeSecond := by
  have hfields := t.fields_wholeSecond
  have hhour : FieldText (paddedDigits 2 t.hour) t.hour := fieldText_padded t.hour_lt
  have hminute : FieldText (paddedDigits 2 t.minute) t.minute := fieldText_padded t.minute_lt
  rw [TimeOfDay.shortChars]
  by_cases hzero : t.second = 0
  · -- what is left out is read as zero
    rw [if_pos hzero, List.append_nil]
    rw [hzero] at hfields
    exact .hourMinute hhour hminute hfields
  · have hsecond : FieldText (paddedDigits 2 t.second) t.second :=
      fieldText_padded (Nat.lt_trans t.second_lt (by decide))
    rw [if_neg hzero, List.append_assoc, List.cons_append]
    exact .hourMinuteSecond hhour hminute hsecond hfields

theorem shortChars_plain (t : TimeOfDay) : ∀ c ∈ t.shortChars, isBlank c = false ∧ c ≠ '-' := by
  have hpadded (n : Nat) : ∀ c ∈ paddedDigits 2 n, isBlank c = false ∧ c ≠ '-' := by
    intro c hc
    have hdigit := isDigit_padded 2 n c hc
    refine ⟨isBlank_of_isDigit hdigit, ?_⟩
    rintro rfl
    exact absurd hdigit (by decide)
  have hcolon (n : Nat) : ∀ c ∈ ':' :: paddedDigits 2 n, isBlank c = false ∧ c ≠ '-' := by
    rw [List.forall_mem_cons]
    exact ⟨by decide, hpadded n⟩
  intro c hc
  rw [TimeOfDay.shortChars] at hc
  rcases List.mem_append.1 hc with hc | hc
  · rcases List.mem_append.1 hc with hc | hc
    · exact hpadded t.hour c hc
    · exact hcolon t.minute c hc
  · split at hc
    · cases hc
    · exact hcolon t.second c hc

/-! ## What is read again -/

/-- What is written for a window is a window, with the fractions of its seconds left out. -/
theorem parse_render (w : TimeWindow) :
    parse w.render = .ok ⟨w.start.wholeSecond, w.finish.wholeSecond⟩ := by
  have hblank (t : TimeOfDay) : ∀ c ∈ t.shortChars, isBlank c = false := fun c hc =>
    (shortChars_plain t c hc).1
  have hdash (t : TimeOfDay) : '-' ∉ t.shortChars := fun hmem => (shortChars_plain t '-' hmem).2 rfl
  have hall : ∀ c ∈ w.start.shortChars ++ '-' :: w.finish.shortChars, isBlank c = false := by
    rw [List.forall_mem_append, List.forall_mem_cons]
    exact ⟨hblank w.start, by decide, hblank w.finish⟩
  have hhalves : halves? (trimChars w.render.toList) =
      some (w.start.shortChars, w.finish.shortChars) := by
    rw [render, String.toList_ofList, trimChars_of_no_blank hall, halves?_first (hdash w.start),
      if_neg (hdash w.finish)]
  rw [parse_eq_ok_iff hhalves, trimChars_of_no_blank (hblank w.start),
    trimChars_of_no_blank (hblank w.finish)]
  exact ⟨timeText_shortChars w.start, timeText_shortChars w.finish⟩

theorem parse_render_of_nanos {w : TimeWindow} (hstart : w.start.nanos = 0)
    (hfinish : w.finish.nanos = 0) : parse w.render = .ok w := by
  rw [parse_render, TimeOfDay.wholeSecond_of_nanos hstart, TimeOfDay.wholeSecond_of_nanos hfinish]

theorem nanos_of_ofHourMinute? {startHour startMinute finishHour finishMinute : Nat} {w : TimeWindow}
    (h : ofHourMinute? startHour startMinute finishHour finishMinute = some w) :
    w.start.nanos = 0 ∧ w.finish.nanos = 0 := by
  rw [ofHourMinute?] at h
  obtain ⟨start, hstart, h⟩ := Option.bind_eq_some_iff.1 h
  obtain ⟨finish, hfinish, h⟩ := Option.bind_eq_some_iff.1 h
  cases h
  exact ⟨(TimeOfDay.ofFields?_eq_some_iff.1 hstart).nanos_eq,
    (TimeOfDay.ofFields?_eq_some_iff.1 hfinish).nanos_eq⟩

theorem TimeText.exists_fields {cs : List Char} {t : TimeOfDay} (h : TimeText cs t) :
    ∃ hour minute second, t.Fields hour minute second := by
  cases h with
  | hourMinute _ _ ht => exact ⟨_, _, _, ht⟩
  | hourMinuteSecond _ _ _ ht => exact ⟨_, _, _, ht⟩

/-- The bounds of a window that was read are times made of fields. -/
theorem exists_fields_of_parse {text : String} {w : TimeWindow} (h : parse text = .ok w) :
    (∃ hour minute second, w.start.Fields hour minute second) ∧
      ∃ hour minute second, w.finish.Fields hour minute second := by
  by_cases hcount : (trimChars text.toList).count '-' = 1
  · obtain ⟨before, after, -, hhalves⟩ := exists_halves_of_count hcount
    obtain ⟨hstart, hfinish⟩ := (parse_eq_ok_iff hhalves).1 h
    exact ⟨hstart.exists_fields, hfinish.exists_fields⟩
  · rw [parse, halves?_of_count_ne hcount] at h
    cases h

/-- What is written for a window that was read is read as that window exactly if neither of its bounds
is a leap second, and otherwise as the window with second 59 in the place of each leap second.  Windows
given by hours and minutes, and all windows without fractions of a second, are read as they were. -/
theorem render_reads_back :
    (∀ text w, parse text = .ok w →
        (parse w.render = .ok w ↔ w.start.isLeap = false ∧ w.finish.isLeap = false) ∧
          parse w.render = .ok ⟨w.start.withoutLeap, w.finish.withoutLeap⟩) ∧
      (∀ startHour startMinute finishHour finishMinute w,
        ofHourMinute? startHour startMinute finishHour finishMinute = some w →
          parse w.render = .ok w) ∧
      ∀ w : TimeWindow, w.start.nanos = 0 → w.finish.nanos = 0 → parse w.render = .ok w := by
  refine ⟨?_, ?_, fun w => parse_render_of_nanos⟩
  · intro text w hread
    obtain ⟨⟨_, _, _, hstart⟩, ⟨_, _, _, hfinish⟩⟩ := exists_fields_of_parse hread
    have hagain : parse w.render = .ok ⟨w.start.withoutLeap, w.finish.withoutLeap⟩ := by
      rw [parse_render, hstart.wholeSecond_eq, hfinish.wholeSecond_eq]
    refine ⟨?_, hagain⟩
    rw [hagain, Except.ok.injEq, ← TimeOfDay.withoutLeap_eq_self_iff,
      ← TimeOfDay.withoutLeap_eq_self_iff]
    obtain ⟨start, finish⟩ := w
    rw [TimeWindow.mk.injEq]
  · intro startHour startMinute finishHour finishMinute w hw
    obtain ⟨hstart, hfinish⟩ := nanos_of_ofHourMinute? hw
    exact parse_render_of_nanos hstart hfinish

/-- A window that ends in a leap second is written with second 59, and one whose end is a full minute
without its seconds. -/
theorem render_reads_back_of_leap_second :
    let w : TimeWindow :=
      ⟨⟨30570, 0, by decide, by decide⟩, ⟨30659, 1000000000, by decide, by decide⟩⟩
    let w' : TimeWindow := ⟨⟨30570, 0, by decide, by decide⟩, ⟨30660, 0, by decide, by decide⟩⟩
    parse " 8:29:30-08:30:60" = .ok w ∧ w.render = "08:29:30-08:30:59" ∧ parse w.render ≠ .ok w ∧
      w'.render = "08:29:30-08:31" ∧ parse w'.render = .ok w' := by
  intro w w'
  have hread : parse " 8:29:30-08:30:60" = .ok w := by decide
  obtain ⟨hback, -, hwhole⟩ := render_reads_back
  refine ⟨hread, by decide, ?_, by decide, hwhole w' rfl rfl⟩
  rw [ne_eq, (hback _ w hread).1]
  decide

end TimeWindow
end EntryGate
