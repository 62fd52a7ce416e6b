import EntryGate.Session.Gate
import Mathlib.Data.List.Basic

/-!
# The queries of the session gate agree

The session gate can be asked for the window that keeps an entry out, for either kind of window
alone, and for the windows of a day.  Each query reads the texts of the calendar in its own way: one
stops at the settlement window, one at the first blackout window that contains the time, and one
reads all the texts before it looks at the time.

* `SessionGate.settlementAt?` and `SessionGate.firstBlackout?` pick windows from the lists of a day,
  and `SessionGate.blocking?_eq` finds the window that keeps an entry out with them;
* `CalendarDay.Littered` is a day to which texts were added that are no windows, and
  `SessionGate.windows_of_littered` says that its windows are the same;
* `SessionGate.queries_agree` puts the queries side by side.
-/

namespace EntryGate

open Text

/-! ## Texts that are no windows -/

/-- A text that is blank, or that cannot be read as a window. -/
def Illegible (text : String) : Prop :=
  trim text = "" ∨ ∃ e, TimeWindow.parse text = .error e

/-- Texts among which any number of illegible ones were inserted, anywhere. -/
inductive Interspersed : List String → List String → Prop where
  | nil : Interspersed [] []
  | keep (text : String) {texts texts' : List String} :
      Interspersed texts texts' → Interspersed (text :: texts) (text :: texts')
  | insert {text : String} {texts texts' : List String} :
      Illegible text → Interspersed texts texts' → Interspersed texts (text :: texts')

/-- A day with illegible texts among its blackouts, and perhaps one in the place of a settlement that
it does not have. -/
structure CalendarDay.Littered (day day' : CalendarDay) : Prop where
  settlement : day'.settlement = day.settlement ∨
    day.settlement = none ∧ ∃ text, day'.settlement = some text ∧ Illegible text
  blackouts : Interspersed day.blackouts day'.blackouts

namespace SessionGate

theorem window?_of_illegible {text : String} (h : Illegible text) : window? text = none := by
  rcases h with hblank | ⟨e, herror⟩
  · have hempty : (trim text).isEmpty = true := String.isEmpty_iff.2 hblank
    rw [window?, if_pos hempty]
  · rw [window?, herror]
    exact ite_self none

/-- Inserted texts leave no trace among the windows. -/
theorem filterMap_interspersed {texts texts' : List String} (h : Interspersed texts texts') :
    texts'.filterMap window? = texts.filterMap window? := by
  induction h with
  | nil => rfl
  | keep text _ ih =>
    -- a text that was there before counts as before, as a window or not at all
    cases hwindow : window? text with
    | none => simpa [hwindow] using ih
    | some w => simpa [hwindow] using ih
  | insert hillegible _ ih =>
    rw [List.filterMap_cons_none (window?_of_illegible hillegible)]
    exact ih

theorem settlement_littered {day day' : CalendarDay} (h : day.Littered day') :
    day'.settlement.bind window? = day.settlement.bind window? := by
  rcases h.settlement with hsame | ⟨habsent, text, hpresent, hillegible⟩
  · rw [hsame]
  · rw [habsent, hpresent, Option.bind_some, window?_of_illegible hillegible, Option.bind_none]

/-- The windows of a littered day are those of the day. -/
theorem windows_of_littered {g g' : SessionGate} {symbol : String} {date : Date}
    (h : Option.Rel CalendarDay.Littered (g.calendar symbol date) (g'.calendar symbol date)) :
    g'.settlement? symbol date = g.settlement? symbol date ∧
      g'.blackouts symbol date = g.blackouts symbol date := by
  rw [settlement?, settlement?, blackouts, blackouts, day?, day?]
  by_cases hblank : (trim symbol).isEmpty = true
  · rw [if_pos hblank, if_pos hblank]
    exact ⟨rfl, rfl⟩
  · rw [if_neg hblank, if_neg hblank]
    -- from here on only the two days found matter, not where they come from
    generalize g.calendar symbol date = found at h ⊢
    generalize g'.calendar symbol date = found' at h ⊢
    cases h with
    | none => exact ⟨rfl, rfl⟩
    | some hday => exact ⟨settlement_littered hday, filterMap_interspersed hday.blackouts⟩

/-! ## The window that keeps an entry out -/

section Queries

variable (g : SessionGate) (symbol : String) (moment : LocalDateTime)

/-- The settlement window of the day, if it contains the time. -/
def settlementAt? : Option TimeWindow :=
  (g.settlement? symbol moment.date).filter fun w => w.contains moment.time

/-- The first blackout window of the day that contains the time. -/
def firstBlackout? : Option TimeWindow :=
  (g.blackouts symbol moment.date).find? fun w => w.contains moment.time

/-- The settlement window comes first, and only then the blackout windows count. -/
theorem blocking?_eq :
    g.blocking? symbol moment =
      ((g.settlementAt? symbol moment).map SessionBlock.settlement).or
        ((g.firstBlackout? symbol moment).map SessionBlock.blackout) := by
  rw [blocking?, settlementAt?, firstBlackout?, settlement?, blackouts]
  cases g.day? symbol moment.date with
  | none => rfl
  | some day =>
    simp only [Option.bind_some, blackoutAt?]
    -- a settlement window that does not contain the time is as good as none
    cases day.settlement.bind window? with
    | none => rfl
    | some w => cases hcontains : w.contains moment.time <;> simp [Option.filter, hcontains]

theorem isSettlement_eq : g.isSettlement symbol moment = (g.settlementAt? symbol moment).isSome := by
  rw [isSettlement, settlementAt?]
  cases g.settlement? symbol moment.date with
  | none => rfl
  | some w => cases hcontains : w.contains moment.time <;> simp [Option.filter, hcontains]

theorem isBlackout_eq : g.isBlackout symbol moment = (g.firstBlackout? symbol moment).isSome := by
  rw [isBlackout, firstBlackout?, Bool.eq_iff_iff, List.any_eq_true, List.find?_isSome]

/-- A blank symbol has no windows. -/
theorem windows_of_blank {symbol : String} (h : trim symbol = "") :
    g.settlementAt? symbol moment = none ∧ g.firstBlackout? symbol moment = none := by
  have hday : g.day? symbol moment.date = none := if_pos (String.isEmpty_iff.2 h)
  rw [settlementAt?, firstBlackout?, settlement?, blackouts, hday]
  exact ⟨rfl, rfl⟩

/-! ## Agreement -/

theorem blocking?_eq_settlement_iff {w : TimeWindow} :
    g.blocking? symbol moment = some (.settlement w) ↔ g.settlementAt? symbol moment = some w := by
  rw [blocking?_eq]
  cases g.settlementAt? symbol moment with
  | some found => simp
  | none => cases g.firstBlackout? symbol moment <;> simp

theorem blocking?_eq_blackout_iff {w : TimeWindow} :
    g.blocking? symbol moment = some (.blackout w) ↔
      g.settlementAt? symbol moment = none ∧ g.firstBlackout? symbol moment = some w := by
  rw [blocking?_eq]
  cases g.settlementAt? symbol moment with
  | some found => simp
  | none => simp

/-- The window found is the first one of the list that contains the time. -/
theorem firstBlackout?_eq_some_iff {w : TimeWindow} :
    g.firstBlackout? symbol moment = some w ↔
      w.contains moment.time = true ∧ ∃ before after,
        g.blackouts symbol moment.date = before ++ w :: after ∧
          ∀ earlier ∈ before, earlier.contains moment.time = false := by
  rw [firstBlackout?, List.find?_eq_some_iff_append]
  simp

/-- The answers of gates whose calendars have the same windows on a day. -/
theorem answers_of_windows {g' : SessionGate}
    (hsettlement : g'.settlement? symbol moment.date = g.settlement? symbol moment.date)
    (hblackouts : g'.blackouts symbol moment.date = g.blackouts symbol moment.date) :
    g'.blocking? symbol moment = g.blocking? symbol moment ∧
      g'.isSettlement symbol moment = g.isSettlement symbol moment ∧
      g'.isBlackout symbol moment = g.isBlackout symbol moment := by
  have hwindow : g'.settlementAt? symbol moment = g.settlementAt? symbol moment := by
    rw [settlementAt?, hsettlement, settlementAt?]
  have hfirst : g'.firstBlackout? symbol moment = g.firstBlackout? symbol moment := by
    rw [firstBlackout?, hblackouts, firstBlackout?]
  refine ⟨?_, ?_, ?_⟩
  · rw [blocking?_eq, blocking?_eq, hwindow, hfirst]
  · rw [isSettlement_eq, isSettlement_eq, hwindow]
  · rw [isBlackout_eq, isBlackout_eq, hfirst]

end Queries

/-- The window that keeps an entry out is the settlement window exactly if the settlement query says
so, and a blackout window exactly if only the blackout query does; it is the settlement window of the
day, or the first blackout window of the day that contains the time.  Illegible texts in the calendar
change no answer, and a blank symbol is never kept out. -/
theorem queries_agree (g : SessionGate) (symbol : String) (moment : LocalDateTime) :
    ((∃ w, g.blocking? symbol moment = some (.settlement w)) ↔
        g.isSettlement symbol moment = true) ∧
      (∀ w, g.blocking? symbol moment = some (.settlement w) →
        g.settlement? symbol moment.date = some w) ∧
      ((∃ w, g.blocking? symbol moment = some (.blackout w)) ↔
        g.isSettlement symbol moment = false ∧ g.isBlackout symbol moment = true) ∧
      (∀ w, g.blocking? symbol moment = some (.blackout w) →
        w.contains moment.time = true ∧ ∃ before after,
          g.blackouts symbol moment.date = before ++ w :: after ∧
            ∀ earlier ∈ before, earlier.contains moment.time = false) ∧
      (g.blocking? symbol moment = none ↔
        g.isSettlement symbol moment = false ∧ g.isBlackout symbol moment = false) ∧
      (∀ g' : SessionGate,
        Option.Rel CalendarDay.Littered (g.calendar symbol moment.date)
            (g'.calendar symbol moment.date) →
          g'.blocking? symbol moment = g.blocking? symbol moment ∧
            g'.isSettlement symbol moment = g.isSettlement symbol moment ∧
            g'.isBlackout symbol moment = g.isBlackout symbol moment ∧
            g'.settlement? symbol moment.date = g.settlement? symbol moment.date ∧
            g'.blackouts symbol moment.date = g.blackouts symbol moment.date) ∧
      (trim symbol = "" →
        g.blocking? symbol moment = none ∧ g.isSettlement symbol moment = false ∧
          g.isBlackout symbol moment = false) := by
  have hsettlement := g.isSettlement_eq symbol moment
  have hblackout := g.isBlackout_eq symbol moment
  refine ⟨?_, ?_, ?_, ?_, ?_, ?_, ?_⟩
  · simp only [blocking?_eq_settlement_iff, hsettlement, Option.isSome_iff_exists]
  · intro w hw
    have hfound : g.settlementAt? symbol moment = some w :=
      (g.blocking?_eq_settlement_iff symbol moment).1 hw
    exact (Option.filter_eq_some_iff.1 hfound).1
  · simp only [blocking?_eq_blackout_iff, hsettlement, hblackout, Option.isSome_eq_false_iff,
      Option.isNone_iff_eq_none, Option.isSome_iff_exists, exists_and_left]
  · intro w hw
    obtain ⟨-, hfirst⟩ := (g.blocking?_eq_blackout_iff symbol moment).1 hw
    exact (g.firstBlackout?_eq_some_iff symbol moment).1 hfirst
  · simp only [blocking?_eq, hsettlement, hblackout, Option.isSome_eq_false_iff,
      Option.isNone_iff_eq_none, Option.or_eq_none_iff, Option.map_eq_none_iff]
  · intro g' hlittered
    obtain ⟨hwindow, hwindows⟩ := windows_of_littered hlittered
    obtain ⟨hblocking, hanswers⟩ := g.answers_of_windows symbol moment hwindow hwindows
    exact ⟨hblocking, hanswers.1, hanswers.2, hwindow, hwindows⟩
  · intro hblank
    obtain ⟨hnone, hfirst⟩ := g.windows_of_blank moment hblank
    rw [hsettlement, hblackout, blocking?_eq, hnone, hfirst]
    exact ⟨rfl, rfl, rfl⟩

/-- A day with two blackout windows, and the same day with garbage, a blank and an impossible hour
among them and a settlement that is none: at 16:20 both find the second window. -/
theorem queries_agree_of_littered :
    let day : CalendarDay := ⟨none, ["08:29-08:31", "16:10-16:30"]⟩
    let littered : CalendarDay :=
      ⟨some "16:00", ["garbage", "08:29-08:31", " ", "25:00-26:00", "16:10-16:30"]⟩
    let g := ofCalendar fun _ _ => some day
    let g' := ofCalendar fun _ _ => some littered
    let moment : LocalDateTime := ⟨⟨2025, 9, 2⟩, ⟨58800, 0, by decide, by decide⟩⟩
    let w : TimeWindow := ⟨⟨58200, 0, by decide, by decide⟩, ⟨59400, 0, by decide, by decide⟩⟩
    day.Littered littered ∧ g.blocking? "ES" moment = some (.blackout w) ∧
      g'.blocking? "ES" moment = some (.blackout w) ∧ g.blocking? " " moment = none := by
  intro day littered g g' moment w
  have hgarbage : TimeWindow.parse "garbage" = .error (.shape "garbage") := by decide +kernel
  have hhour : TimeWindow.parse "25:00-26:00" = .error (.time "25:00") := by decide +kernel
  have hsettlement : TimeWindow.parse "16:00" = .error (.shape "16:00") := by decide +kernel
  have hlittered : day.Littered littered := by
    refine ⟨.inr ⟨rfl, "16:00", rfl, .inr ⟨_, hsettlement⟩⟩, ?_⟩
    refine .insert (.inr ⟨_, hgarbage⟩) (.keep _ (.insert (.inl (by decide)) ?_))
    exact .insert (.inr ⟨_, hhour⟩) (.keep _ .nil)
  have hblocking : g.blocking? "ES" moment = some (.blackout w) := by decide +kernel
  obtain ⟨-, -, -, -, -, hsame, -⟩ := queries_agree g "ES" moment
  obtain ⟨-, -, -, -, -, -, hblank⟩ := queries_agree g " " moment
  refine ⟨hlittered, hblocking, ?_, (hblank (by decide)).1⟩
  rw [(hsame g' (.some hlittered)).1, hblocking]

end SessionGate
end EntryGate
