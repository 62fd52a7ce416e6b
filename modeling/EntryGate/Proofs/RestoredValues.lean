import EntryGate.EventLog
import EntryGate.Intent
import EntryGate.Order
import EntryGate.Proofs.TimeText
import EntryGate.Risk.Caps
import EntryGate.Session.Calendar
import EntryGate.Session.Window
import EntryGate.Sizing.Sizer
import EntryGate.Stop.Trailing
import Mathlib.Data.List.Nodup

/-!
# Values that are read again

Reading accepts many documents for one value: names in other spellings, records given as lists,
members that are left out, bands that are no bands yet.  Writing has one form for each value.  So what
is written for a value differs from what it was read from, and the question is whether it is read as
the same value.

* `Restores` says so of a reader and a writer, up to a function that says what becomes of the value;
* `Restores.list`, `Restores.option` and `Restores.variant` carry it over to lists, to values that may
  be absent and to alternatives, and `Restores.record` to records, member by member;
* the rest of the file are the values without decimals: alternatives, times, tiers and calendars.
-/

namespace EntryGate

/-- Reading a document gives back every value that was read and written, once it has settled. -/
def Restores {α : Type} (value : Document → Option α) (document : α → Document) (settle : α → α) :
    Prop :=
  ∀ d x, value d = some x → value (document x) = some (settle x)

/-! ## Parts of documents -/

/-- What holds of the default and of every value that is read holds of a member with a default. -/
theorem Members.of_defaulted? {α : Type} {value : Document → Option α} (p : α → Prop) {m : Members}
    {name : String} {default x : α} (hvalue : ∀ d x, value d = some x → p x) (hdefault : p default)
    (hx : m.defaulted? name value default = some x) : p x := by
  rw [defaulted?] at hx
  cases hmember : Document.member? m.entries name with
  | none =>
    rw [hmember] at hx
    cases hx
    exact hdefault
  | some d =>
    rw [hmember] at hx
    exact hvalue d x hx

section Lists

variable {α β : Type} {f : β → Option α}

/-- What holds of every item that is read holds of all items of a list that is read. -/
theorem forall_of_mapM {p : α → Prop} (hf : ∀ b a, f b = some a → p a) {bs : List β} {xs : List α}
    (h : bs.mapM f = some xs) : ∀ a ∈ xs, p a := by
  induction bs generalizing xs with
  | nil =>
    cases h
    intro a ha
    cases ha
  | cons b bs ih =>
    rw [List.mapM_cons] at h
    obtain ⟨first, hfirst, h⟩ := Option.bind_eq_some_iff.1 h
    obtain ⟨rest, hrest, h⟩ := Option.bind_eq_some_iff.1 h
    cases h
    intro a ha
    rcases List.mem_cons.1 ha with rfl | ha
    · exact hf b a hfirst
    · exact ih hrest a ha

/-- A list is read if each of its items is. -/
theorem mapM_map_eq_some {g : α → β} {settle : α → α} {xs : List α}
    (h : ∀ a ∈ xs, f (g a) = some (settle a)) : (xs.map g).mapM f = some (xs.map settle) := by
  induction xs with
  | nil => rfl
  | cons a xs ih =>
    have hrest := ih fun b hb => h b (List.mem_cons_of_mem a hb)
    rw [List.map_cons, List.mapM_cons, h a List.mem_cons_self, hrest]
    rfl

end Lists

theorem Document.le_of_natUpTo? {bound n : Nat} {d : Document} (h : natUpTo? bound d = some n) :
    n ≤ bound := by
  cases d with
  | integer k =>
    rw [natUpTo?] at h
    split at h
    · next hrange =>
      cases h
      exact hrange.2
    · cases h
  | _ => cases h

namespace Restores

variable {α : Type} {value : Document → Option α} {document : α → Document} {settle : α → α}

theorem natUpTo (bound : Nat) : Restores (Document.natUpTo? bound) .ofNat id := by
  intro d n h
  have hbound : n ≤ bound := Document.le_of_natUpTo? h
  show (if (0 : Int) ≤ n ∧ (n : Int).natAbs ≤ bound then some (n : Int).natAbs else none) = some n
  rw [Int.natAbs_natCast, if_pos ⟨Int.natCast_nonneg n, hbound⟩]

theorem count : Restores Document.count? .ofNat id :=
  natUpTo Count.max

theorem size : Restores Document.size? .ofNat id :=
  natUpTo _

theorem int64 : Restores Document.int64? .integer id := by
  intro d n h
  cases d with
  | integer k =>
    rw [Document.int64?] at h
    split at h
    · next hrange =>
      cases h
      exact if_pos hrange
    · cases h
  | _ => cases h

theorem bool (format : Format) : Restores (decode format) (encode (α := Bool)) id :=
  fun _ _ _ => rfl

theorem string (format : Format) : Restores (decode format) (encode (α := String)) id :=
  fun _ _ _ => rfl

/-- An alternative is read by the name it is written with, whatever other names it has. -/
theorem variant {name : α → String} {ofName? : String → Option α}
    (h : ∀ x, ofName? (name x) = some x) (format : Format) :
    Restores (fun d => (d.variant? format).bind ofName?) (fun x => .text (name x)) id :=
  fun _ x _ => h x

theorem list (h : Restores value document settle) :
    Restores (Document.listOf? value) (fun xs => .list (xs.map document)) (List.map settle) := by
  intro d xs hxs
  cases d with
  | list ds => exact mapM_map_eq_some (forall_of_mapM h hxs)
  | _ => cases hxs

theorem optionOf?_of_ne_null {d : Document} (h : d ≠ .null) :
    Document.optionOf? value d = (value d).map some := by
  cases d with
  | null => exact absurd rfl h
  | _ => rfl

/-- A value that may be absent, if a null never stands for one that is there. -/
theorem option (h : Restores value document settle) (hnull : ∀ x, document x ≠ .null) :
    Restores (Document.optionOf? value) (Document.ofOption document) (Option.map settle) := by
  intro d o ho
  cases o with
  | none => rfl
  | some x =>
    have hd : d ≠ .null := by
      rintro rfl
      cases ho
    rw [optionOf?_of_ne_null hd] at ho
    obtain ⟨y, hy, heq⟩ := Option.map_eq_some_iff.1 ho
    cases heq
    show Document.optionOf? value (document x) = _
    rw [optionOf?_of_ne_null (hnull x), h d x hy]
    rfl

/-! ### Members of records -/

theorem required (h : Restores value document settle) {m : Members} {name : String} {x : α}
    (hx : m.required? name value = some x) : value (document x) = some (settle x) := by
  obtain ⟨d, -, hd⟩ := Option.bind_eq_some_iff.1 hx
  exact h d x hd

theorem defaulted (h : Restores value document settle) {m : Members} {name : String} {default x : α}
    (hdefault : value (document default) = some (settle default))
    (hx : m.defaulted? name value default = some x) : value (document x) = some (settle x) :=
  Members.of_defaulted? (fun x => value (document x) = some (settle x)) h hdefault hx

theorem optional (h : Restores value document settle) (hnull : ∀ x, document x ≠ .null) {m : Members}
    {name : String} {o : Option α} (ho : m.optional? name value = some o) :
    Document.optionOf? value (Document.ofOption document o) = some (o.map settle) := by
  rw [Members.optional?] at ho
  cases hmember : Document.member? m.entries name with
  | none =>
    rw [hmember] at ho
    cases o with
    | none => rfl
    | some x =>
      -- a member that is missing is absent or an error, never a value
      simp only at ho
      split at ho <;> cases ho
  | some d =>
    rw [hmember] at ho
    exact h.option hnull d o ho

end Restores

theorem ofDocument?_record {format : Format} {names : List String} {ms : List (String × Document)}
    (hnames : ms.map Prod.fst = names) (hdistinct : names.Nodup) :
    Members.ofDocument? format names (.record ms) = some ⟨false, ms⟩ := by
  have hcount : ∀ name ∈ names, ms.countP (fun m => m.1 == name) ≤ 1 := by
    intro name _
    calc
      ms.countP (fun m => m.1 == name) = names.count name := by
        rw [← hnames, List.count, List.countP_map]
        rfl
      _ ≤ 1 := List.nodup_iff_count_le_one.1 hdistinct name
  rw [Members.ofDocument?, if_pos]
  rw [List.all_eq_true]
  intro name hname
  exact decide_eq_true (hcount name hname)

/-- A record is restored if its members are restored from the record that is written. -/
theorem Restores.record {α : Type} {format : Format} {names : List String}
    {body : Members → Option α} {members : α → List (String × Document)} {settle : α → α}
    (hnames : ∀ x, (members x).map Prod.fst = names) (hdistinct : names.Nodup)
    (hbody : ∀ m x, body m = some x → body ⟨false, members x⟩ = some (settle x)) :
    Restores (fun d => (Members.ofDocument? format names d).bind body) (fun x => .record (members x))
      settle := by
  intro d x h
  obtain ⟨m, -, hm⟩ := Option.bind_eq_some_iff.1 h
  show (Members.ofDocument? format names (.record (members x))).bind body = _
  rw [ofDocument?_record (hnames x) hdistinct]
  exact hbody m x hm

/-- A reading that succeeds goes on with what was read. -/
theorem read_bind {α β : Type} {o : Option α} {a : α} {next : α → Option β} {b : Option β}
    (h : o = some a) (hnext : next a = b) : o.bind next = b := by
  rw [h]
  exact hnext

section Values

variable (format : Format)

/-! ## Values -/

/-- A decimal loses the minus sign of a zero. -/
theorem restores_decimal : Restores (decode format) encode Decimal.unsignedZero := by
  intro d a _
  exact a.parse?_render

theorem restores_timeOfDay : Restores (decode format) (encode (α := TimeOfDay)) id := by
  intro d t h
  cases d with
  | text s => exact TimeOfDay.parse?_render (TimeOfDay.proper_of_parse? h)
  | _ => cases h

theorem restores_localDateTime : Restores (decode format) (encode (α := LocalDateTime)) id := by
  intro d t h
  cases d with
  | text s => exact LocalDateTime.parse?_render (LocalDateTime.proper_of_parse? h)
  | _ => cases h

theorem restores_side : Restores (decode format) (encode (α := Side)) id :=
  .variant (fun s => by cases s <;> rfl) format

theorem restores_orderKind : Restores (decode format) (encode (α := OrderKind)) id :=
  .variant (fun k => by cases k <;> rfl) format

theorem restores_riskMode : Restores (decode format) (encode (α := RiskMode)) id :=
  .variant (fun m => by cases m <;> rfl) format

theorem restores_lockoutState : Restores (decode format) (encode (α := LockoutState)) id :=
  .variant (fun s => by cases s <;> rfl) format

theorem restores_riskDecision : Restores (decode format) (encode (α := RiskDecision)) id :=
  .variant (fun d => by cases d <;> rfl) format

theorem restores_trailingKind : Restores (decode format) (encode (α := TrailingKind)) id :=
  .variant (fun k => by cases k <;> rfl) format

/-! ## Records of plain values

Each proof takes the members of the record that was read, and reads them one after the other from the
record that is written. -/

theorem restores_positionIntent : Restores (decode format) (encode (α := PositionIntent)) id := by
  refine .record (fun _ => rfl) (by decide) ?_
  intro m p h
  simp only [Option.bind_eq_bind, Option.bind_eq_some_iff, Option.pure_def, Option.some.injEq] at h
  obtain ⟨symbol, hsymbol, side, hside, rfl⟩ := h
  exact read_bind ((Restores.string format).required hsymbol) <|
    read_bind ((restores_side format).required hside) rfl

theorem restores_diagnosticEvent : Restores (decode format) (encode (α := DiagnosticEvent)) id := by
  refine .record (fun _ => rfl) (by decide) ?_
  intro m e h
  simp only [Option.bind_eq_bind, Option.bind_eq_some_iff, Option.pure_def, Option.some.injEq] at h
  obtain ⟨tag, htag, message, hmessage, rfl⟩ := h
  exact read_bind ((Restores.string format).required htag) <|
    read_bind ((Restores.string format).required hmessage) rfl

theorem restores_sizeDecision : Restores (decode format) (encode (α := SizeDecision)) id := by
  refine .record (fun _ => rfl) (by decide) ?_
  intro m s h
  simp only [Option.bind_eq_bind, Option.bind_eq_some_iff, Option.pure_def, Option.some.injEq] at h
  obtain ⟨quantity, hquantity, reason, hreason, mode, hmode, rfl⟩ := h
  exact read_bind (Restores.count.required hquantity) <|
    read_bind ((Restores.string format).required hreason) <|
    read_bind ((restores_riskMode format).required hmode) rfl

theorem restores_bracket : Restores (decode format) (encode (α := Bracket)) id := by
  refine .record (fun _ => rfl) (by decide) ?_
  intro m b h
  simp only [Option.bind_eq_bind, Option.bind_eq_some_iff, Option.pure_def, Option.some.injEq] at h
  obtain ⟨ecp, hecp, pcp, hpcp, dcp, hdcp, hr, hhr, tag, htag, rfl⟩ := h
  exact read_bind (Restores.count.defaulted rfl hecp) <|
    read_bind (Restores.count.defaulted rfl hpcp) <|
    read_bind (Restores.count.defaulted rfl hdcp) <|
    read_bind (Restores.count.defaulted rfl hhr) <|
    read_bind ((Restores.string format).defaulted rfl htag) rfl

theorem restores_timeWindow : Restores (decode format) (encode (α := TimeWindow)) id := by
  refine .record (fun _ => rfl) (by decide) ?_
  intro m w h
  simp only [Option.bind_eq_bind, Option.bind_eq_some_iff, Option.pure_def, Option.some.injEq] at h
  obtain ⟨start, hstart, finish, hfinish, rfl⟩ := h
  exact read_bind ((restores_timeOfDay format).required hstart) <|
    read_bind ((restores_timeOfDay format).required hfinish) rfl

/-! ### Tiers -/

/-- Whatever its ends are, a band is not empty. -/
theorem Tier.min_le_max_new (min max : Nat) (tag : String) :
    (Tier.new min max tag).min ≤ (Tier.new min max tag).max := by
  show min ≤ if max < min then min else max
  split <;> omega

/-- A band that was read is not empty. -/
theorem min_le_max_of_decode (d : Document) (t : Tier) (h : decode format d = some t) :
    t.min ≤ t.max := by
  obtain ⟨m, -, h⟩ := Option.bind_eq_some_iff.1 h
  simp only [Option.bind_eq_bind, Option.bind_eq_some_iff, Option.pure_def, Option.some.injEq] at h
  obtain ⟨min, -, max, -, tag, -, rfl⟩ := h
  exact Tier.min_le_max_new min max tag

/-- Tiers that were read have a band for every mode, as those have that are left out. -/
theorem bands_of_decode (d : Document) (t : RiskTiers) (h : decode format d = some t)
    (mode : RiskMode) : (t.forMode mode).min ≤ (t.forMode mode).max := by
  obtain ⟨m, -, h⟩ := Option.bind_eq_some_iff.1 h
  simp only [Option.bind_eq_bind, Option.bind_eq_some_iff, Option.pure_def, Option.some.injEq] at h
  obtain ⟨ecp, hecp, pcp, hpcp, dcp, hdcp, hr, hhr, rfl⟩ := h
  have hband {name : String} {default x : Tier} (hdefault : default.min ≤ default.max)
      (hx : m.defaulted? name (decode format) default = some x) : x.min ≤ x.max :=
    Members.of_defaulted? (fun t : Tier => t.min ≤ t.max) (min_le_max_of_decode format) hdefault hx
  cases mode with
  | extremeProtection => exact hband (by decide) hecp
  | protectivePreservation => exact hband (by decide) hpcp
  | defaultProtection => exact hband (by decide) hdcp
  | highRisk => exact hband (by decide) hhr

/-- A band is raised to its minimum once and for all. -/
theorem Tier.new_new (min max : Nat) (tag : String) :
    new min (new min max tag).max tag = new min max tag := by
  have hle : ¬(new min max tag).max < min := Nat.not_lt.2 (min_le_max_new min max tag)
  rw [new, if_neg hle]
  rfl

theorem restores_tier : Restores (decode format) (encode (α := Tier)) id := by
  refine .record (fun _ => rfl) (by decide) ?_
  intro m t h
  simp only [Option.bind_eq_bind, Option.bind_eq_some_iff, Option.pure_def, Option.some.injEq] at h
  obtain ⟨min, hmin, max, hmax, tag, htag, rfl⟩ := h
  have hmin := Restores.count.defaulted rfl hmin
  have hmax := Restores.count.defaulted rfl hmax
  -- the maximum that is written is one of the two counts that were read
  have hraised : Document.count? (.ofNat (Tier.new min max tag).max) =
      some (Tier.new min max tag).max := by
    show Document.count? (.ofNat (if max < min then min else max)) =
      some (if max < min then min else max)
    split
    · exact hmin
    · exact hmax
  refine read_bind hmin <|
    read_bind hraised <|
    read_bind ((Restores.string format).defaulted rfl htag) ?_
  exact congrArg some (Tier.new_new min max tag)

theorem restores_riskTiers : Restores (decode format) (encode (α := RiskTiers)) id := by
  refine .record (fun _ => rfl) (by decide) ?_
  intro m t h
  simp only [Option.bind_eq_bind, Option.bind_eq_some_iff, Option.pure_def, Option.some.injEq] at h
  obtain ⟨ecp, hecp, pcp, hpcp, dcp, hdcp, hr, hhr, rfl⟩ := h
  exact read_bind ((restores_tier format).defaulted rfl hecp) <|
    read_bind ((restores_tier format).defaulted rfl hpcp) <|
    read_bind ((restores_tier format).defaulted rfl hdcp) <|
    read_bind ((restores_tier format).defaulted rfl hhr) rfl

/-! ### Calendars -/

theorem restores_texts : Restores (decode format) (encode (α := List String)) id := by
  have hlist := (Restores.string format).list
  rw [List.map_id_fun] at hlist
  exact hlist

theorem restores_optionalText : Restores (decode format) (encode (α := Option String)) id := by
  have hoption := (Restores.string format).option (fun _ => nofun)
  rw [Option.map_id_fun] at hoption
  exact hoption

/-- The members of a day can be read from every record that has them. -/
theorem ofMembers?_members {m : Members} {day : CalendarDay}
    (h : CalendarDay.ofMembers? format m = some day) {written : Members}
    (hsettlement : Document.member? written.entries "settlement" = some (encode day.settlement))
    (hblackouts : Document.member? written.entries "blackouts" = some (encode day.blackouts)) :
    CalendarDay.ofMembers? format written = some day := by
  rw [CalendarDay.ofMembers?] at h
  simp only [Option.bind_eq_bind, Option.bind_eq_some_iff, Option.pure_def, Option.some.injEq] at h
  obtain ⟨settlement, hread, blackouts, hreads, rfl⟩ := h
  have hread := (restores_optionalText format).defaulted rfl hread
  have hreads := (restores_texts format).defaulted rfl hreads
  rw [CalendarDay.ofMembers?, Members.defaulted?, hsettlement, Members.defaulted?, hblackouts]
  exact read_bind hread <| read_bind hreads rfl

theorem restores_calendarDay : Restores (decode format) (encode (α := CalendarDay)) id := by
  refine .record (fun _ => rfl) (by decide) ?_
  intro m day h
  exact ofMembers?_members format h rfl rfl

theorem allRepresentable_texts (texts : List String) :
    Document.allRepresentable (texts.map encode) = true := by
  induction texts with
  | nil => rfl
  | cons text texts ih => exact ih

theorem membersRepresentable_dayRecord (r : DayRecord) :
    Document.membersRepresentable (("date", encode r.date) :: r.day.members) = true := by
  have hsettlement : (encode r.day.settlement).isRepresentable = true := by
    cases r.day.settlement <;> rfl
  have hblackouts : (encode r.day.blackouts).isRepresentable = true :=
    allRepresentable_texts r.day.blackouts
  have hdate : (encode r.date).isRepresentable = true := rfl
  simp only [Document.membersRepresentable, CalendarDay.members, hdate, hsettlement, hblackouts,
    Bool.and_self]

/-- The record of a day is read by its members, if all of it can be held. -/
theorem decode_dayRecord (ms : List (String × Document)) :
    (decode format (.record ms) : Option DayRecord) =
      if Document.membersRepresentable ms then
        (Members.ofDocument? format ["date", "settlement", "blackouts"] (.record ms)).bind fun m =>
          (m.required? "date" (decode format)).bind fun date =>
            (CalendarDay.ofMembers? format m).bind fun day => some ⟨date, day⟩
      else none := by
  show (if !Document.membersRepresentable ms then none else _) = _
  cases Document.membersRepresentable ms <;> rfl

theorem restores_dayRecord : Restores (decode format) (encode (α := DayRecord)) id := by
  intro d r h
  cases d with
  | record ms =>
    rw [decode_dayRecord] at h
    split at h
    · simp only [Option.bind_eq_some_iff, Option.some.injEq] at h
      obtain ⟨m, -, date, hdate, day, hday, rfl⟩ := h
      -- the members of the day stand beside the date, in one record
      show decode format (.record (("date", encode date) :: day.members)) =
        some (⟨date, day⟩ : DayRecord)
      rw [decode_dayRecord, if_pos (membersRepresentable_dayRecord ⟨date, day⟩)]
      exact read_bind (ofDocument?_record rfl (by decide)) <|
        read_bind ((Restores.string format).required hdate) <|
        read_bind (ofMembers?_members format hday rfl rfl) rfl
    · cases h
  | _ => cases h

theorem restores_symbolCalendar : Restores (decode format) (encode (α := SymbolCalendar)) id := by
  refine .record (fun _ => rfl) (by decide) ?_
  intro m s h
  simp only [Option.bind_eq_bind, Option.bind_eq_some_iff, Option.pure_def, Option.some.injEq] at h
  obtain ⟨symbol, hsymbol, days, hdays, rfl⟩ := h
  have hlist := (restores_dayRecord format).list
  rw [List.map_id_fun] at hlist
  exact read_bind ((Restores.string format).required hsymbol) <|
    read_bind (hlist.defaulted rfl hdays) rfl

theorem restores_calendarDocument : Restores (decode format) (encode (α := CalendarDocument)) id := by
  refine .record (fun _ => rfl) (by decide) ?_
  intro m c h
  simp only [Option.bind_eq_bind, Option.bind_eq_some_iff, Option.pure_def, Option.some.injEq] at h
  obtain ⟨symbols, hsymbols, rfl⟩ := h
  have hlist := (restores_symbolCalendar format).list
  rw [List.map_id_fun] at hlist
  exact read_bind (hlist.defaulted rfl hsymbols) rfl

end Values
end EntryGate
