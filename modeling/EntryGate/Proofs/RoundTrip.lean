import EntryGate.Planner
import EntryGate.Proofs.RestoredValues
import EntryGate.Settings

/-!
# Decoding undoes encoding

Whatever can be exchanged is read again from what is written for it.  The only thing that gets lost
on the way is the minus sign of a zero, which a decimal has if it was rounded to zero from below.

* `SizingSettings.restores_quantities` is the one record with names of its own: it is kept in order, so
  filing its entries again changes nothing;
* `RoundTrips` says of a type what becomes of its values when they are read, written and read again;
* `decode_undoes_encode` says it of every type, and `negative_zero_not_restored` that the exception is
  a real one.
-/

namespace EntryGate

/-! ## Records with decimals -/

/-- The profile without minus signs of zeros. -/
def TrailingProfile.unsignedZeros (p : TrailingProfile) : TrailingProfile :=
  { p with param1 := p.param1.unsignedZero, param2 := p.param2.unsignedZero }

/-- The order without the minus sign of a price of zero. -/
def OrderIntent.unsignedZeros (o : OrderIntent) : OrderIntent :=
  { o with price := o.price.unsignedZero }

/-- The plan without minus signs of zeros. -/
def EntryPlan.unsignedZeros (p : EntryPlan) : EntryPlan :=
  { p with
    entryOrder := p.entryOrder.map OrderIntent.unsignedZeros
    stopOrder := p.stopOrder.map OrderIntent.unsignedZeros }

/-- The request without minus signs of zeros. -/
def EntryRequest.unsignedZeros (r : EntryRequest) : EntryRequest :=
  { r with
    price := r.price.unsignedZero
    profile := r.profile.unsignedZeros
    tickSize := r.tickSize.unsignedZero }

/-- The caps without minus signs of zeros. -/
def RiskCaps.unsignedZeros (c : RiskCaps) : RiskCaps :=
  { c with
    dailyLossLimit := c.dailyLossLimit.unsignedZero
    weeklyLossLimit := c.weeklyLossLimit.unsignedZero
    trailingDrawdown := c.trailingDrawdown.unsignedZero }

/-- The snapshot without minus signs of zeros. -/
def RiskSnapshot.unsignedZeros (s : RiskSnapshot) : RiskSnapshot :=
  { s with
    equity := s.equity.unsignedZero
    peakEquity := s.peakEquity.unsignedZero
    dailyPnl := s.dailyPnl.unsignedZero
    weeklyPnl := s.weeklyPnl.unsignedZero }

/-- The settings without minus signs of zeros. -/
def Settings.unsignedZeros (s : Settings) : Settings :=
  { s with
    tickSize := s.tickSize.unsignedZero
    caps := s.caps.unsignedZeros
    trailing := s.trailing.unsignedZeros }

section Decimals

variable (format : Format)

theorem restores_trailingProfile : Restores (decode format) encode TrailingProfile.unsignedZeros := by
  refine .record (fun _ => rfl) (by decide) ?_
  intro m p h
  simp only [Option.bind_eq_bind, Option.bind_eq_some_iff, Option.pure_def, Option.some.injEq] at h
  obtain ⟨kind, hkind, param1, hparam1, param2, hparam2, rfl⟩ := h
  exact read_bind ((restores_trailingKind format).defaulted rfl hkind) <|
    read_bind ((restores_decimal format).defaulted rfl hparam1) <|
    read_bind ((restores_decimal format).defaulted rfl hparam2) rfl

theorem restores_orderIntent : Restores (decode format) encode OrderIntent.unsignedZeros := by
  refine .record (fun _ => rfl) (by decide) ?_
  intro m o h
  simp only [Option.bind_eq_bind, Option.bind_eq_some_iff, Option.pure_def, Option.some.injEq] at h
  obtain ⟨symbol, hsymbol, isLong, hlong, quantity, hquantity, kind, hkind, price, hprice, tag, htag,
    oco, hoco, rfl⟩ := h
  exact read_bind ((Restores.string format).required hsymbol) <|
    read_bind ((Restores.bool format).required hlong) <|
    read_bind (Restores.count.required hquantity) <|
    read_bind ((restores_orderKind format).required hkind) <|
    read_bind ((restores_decimal format).required hprice) <|
    read_bind ((Restores.string format).required htag) <|
    read_bind ((Restores.string format).required hoco) rfl

theorem restores_entryPlan : Restores (decode format) encode EntryPlan.unsignedZeros := by
  refine .record (fun _ => rfl) (by decide) ?_
  intro m p h
  simp only [Option.bind_eq_bind, Option.bind_eq_some_iff, Option.pure_def, Option.some.injEq] at h
  obtain ⟨accepted, haccepted, reason, hreason, entry, hentry, stop, hstop, oco, hoco, rfl⟩ := h
  exact read_bind ((Restores.bool format).required haccepted) <|
    read_bind ((Restores.string format).required hreason) <|
    read_bind ((restores_orderIntent format).optional (fun _ => nofun) hentry) <|
    read_bind ((restores_orderIntent format).optional (fun _ => nofun) hstop) <|
    read_bind ((Restores.string format).required hoco) rfl

theorem restores_entryRequest : Restores (decode format) encode EntryRequest.unsignedZeros := by
  refine .record (fun _ => rfl) (by decide) ?_
  intro m r h
  simp only [Option.bind_eq_bind, Option.bind_eq_some_iff, Option.pure_def, Option.some.injEq] at h
  obtain ⟨now, hnow, symbol, hsymbol, side, hside, kind, hkind, price, hprice, profile, hprofile, tick,
    htick, rfl⟩ := h
  exact read_bind ((restores_localDateTime format).required hnow) <|
    read_bind ((Restores.string format).required hsymbol) <|
    read_bind ((restores_side format).required hside) <|
    read_bind ((restores_orderKind format).required hkind) <|
    read_bind ((restores_decimal format).required hprice) <|
    read_bind ((restores_trailingProfile format).defaulted rfl hprofile) <|
    read_bind ((restores_decimal format).defaulted rfl htick) rfl

theorem restores_riskCaps : Restores (decode format) encode RiskCaps.unsignedZeros := by
  refine .record (fun _ => rfl) (by decide) ?_
  intro m c h
  simp only [Option.bind_eq_bind, Option.bind_eq_some_iff, Option.pure_def, Option.some.injEq] at h
  obtain ⟨contracts, hcontracts, daily, hdaily, weekly, hweekly, drawdown, hdrawdown, rfl⟩ := h
  exact read_bind (Restores.count.defaulted rfl hcontracts) <|
    read_bind ((restores_decimal format).defaulted rfl hdaily) <|
    read_bind ((restores_decimal format).defaulted rfl hweekly) <|
    read_bind ((restores_decimal format).defaulted rfl hdrawdown) rfl

theorem restores_riskSnapshot : Restores (decode format) encode RiskSnapshot.unsignedZeros := by
  refine .record (fun _ => rfl) (by decide) ?_
  intro m s h
  simp only [Option.bind_eq_bind, Option.bind_eq_some_iff, Option.pure_def, Option.some.injEq] at h
  obtain ⟨quantity, hquantity, equity, hequity, peak, hpeak, daily, hdaily, weekly, hweekly, rfl⟩ := h
  exact read_bind (Restores.count.defaulted rfl hquantity) <|
    read_bind ((restores_decimal format).defaulted rfl hequity) <|
    read_bind ((restores_decimal format).defaulted rfl hpeak) <|
    read_bind ((restores_decimal format).defaulted rfl hdaily) <|
    read_bind ((restores_decimal format).defaulted rfl hweekly) rfl

end Decimals

/-! ## Settings -/

namespace SizingSettings

/-- Entries in the order of their keys, without repetition. -/
def Ordered (entries : List (String × Nat)) : Prop :=
  entries.Pairwise fun e f => e.1 < f.1

theorem mem_insertSorted {key : String} {n : Nat} {entries : List (String × Nat)} {e : String × Nat}
    (h : e ∈ insertSorted key n entries) : e = (key, n) ∨ e ∈ entries := by
  induction entries with
  | nil => exact .inl (List.mem_singleton.1 h)
  | cons first rest ih =>
    obtain ⟨k, m⟩ := first
    rw [insertSorted] at h
    split at h
    · rcases List.mem_cons.1 h with rfl | hrest
      · exact .inl rfl
      · exact .inr (List.mem_cons_of_mem _ hrest)
    · split at h
      · exact List.mem_cons.1 h
      · rcases List.mem_cons.1 h with rfl | hrest
        · exact .inr List.mem_cons_self
        · rcases ih hrest with rfl | hrest
          · exact .inl rfl
          · exact .inr (List.mem_cons_of_mem _ hrest)

theorem ordered_insertSorted {entries : List (String × Nat)} (h : Ordered entries) (key : String)
    (n : Nat) : Ordered (insertSorted key n entries) := by
  induction entries with
  | nil => exact List.pairwise_singleton _ _
  | cons first rest ih =>
    obtain ⟨k, m⟩ := first
    obtain ⟨hfirst, hrest⟩ := List.pairwise_cons.1 h
    rw [insertSorted]
    split
    · next hkey =>
      -- the entry takes the place of the first one, which has the same key
      refine List.pairwise_cons.2 ⟨?_, hrest⟩
      intro e he
      rw [← hkey]
      exact hfirst e he
    · next hkey =>
      split
      · next hbefore =>
        refine List.pairwise_cons.2 ⟨?_, h⟩
        intro e he
        rcases List.mem_cons.1 he with rfl | he
        · exact hbefore
        · exact String.lt_trans hbefore (hfirst e he)
      · next hafter =>
        have hlt : k < key := Std.lt_of_le_of_ne (String.not_lt.1 hafter) hkey
        refine List.pairwise_cons.2 ⟨?_, ih hrest⟩
        intro e he
        rcases mem_insertSorted he with rfl | he
        · exact hlt
        · exact hfirst e he

/-- An entry that comes after all others is added at the end. -/
theorem insertSorted_of_last {entries : List (String × Nat)} {key : String} {n : Nat}
    (h : ∀ e ∈ entries, e.1 < key) : insertSorted key n entries = entries ++ [(key, n)] := by
  induction entries with
  | nil => rfl
  | cons first rest ih =>
    have hfirst : first.1 < key := h first List.mem_cons_self
    have hne : first.1 ≠ key := by
      intro heq
      rw [heq] at hfirst
      exact String.lt_irrefl key hfirst
    rw [insertSorted, if_neg hne, if_neg (String.lt_asymm hfirst),
      ih fun e he => h e (List.mem_cons_of_mem first he)]
    rfl

/-- Entries that are in order already are filed as they are. -/
theorem foldl_insertSorted {filed entries : List (String × Nat)} (h : Ordered (filed ++ entries)) :
    entries.foldl (fun sorted e => insertSorted e.1 e.2 sorted) filed = filed ++ entries := by
  induction entries generalizing filed with
  | nil => exact (List.append_nil filed).symm
  | cons e rest ih =>
    have hlast : ∀ f ∈ filed, f.1 < e.1 := by
      intro f hf
      exact (List.pairwise_append.1 h).2.2 f hf e List.mem_cons_self
    have hordered : Ordered ((filed ++ [e]) ++ rest) := by
      rw [List.append_assoc]
      exact h
    rw [List.foldl_cons, insertSorted_of_last hlast, ih hordered, List.append_assoc]
    rfl

/-- What filing entries preserves: they are in order, and each of them is one that was filed. -/
theorem filed_foldl {entries filed : List (String × Nat)} {p : String × Nat → Prop}
    (hordered : Ordered filed) (hfiled : ∀ e ∈ filed, p e) (hentries : ∀ e ∈ entries, p e) :
    Ordered (entries.foldl (fun sorted e => insertSorted e.1 e.2 sorted) filed) ∧
      ∀ e ∈ entries.foldl (fun sorted e => insertSorted e.1 e.2 sorted) filed, p e := by
  induction entries generalizing filed with
  | nil => exact ⟨hordered, hfiled⟩
  | cons e rest ih =>
    refine ih (ordered_insertSorted hordered e.1 e.2) ?_ fun f hf =>
      hentries f (List.mem_cons_of_mem e hf)
    intro f hf
    rcases mem_insertSorted hf with rfl | hf
    · exact hentries _ List.mem_cons_self
    · exact hfiled f hf

/-- Quantities by symbol as a document. -/
def quantityRecord (entries : List (String × Nat)) : Document :=
  .record (entries.map fun e => (e.1, .ofNat e.2))

/-- One entry of a record with quantities. -/
def quantity? (m : String × Document) : Option (String × Nat) :=
  (Document.count? m.2).map fun n => (m.1, n)

theorem quantity?_of_quantity? (m : String × Document) (e : String × Nat)
    (h : quantity? m = some e) : quantity? (e.1, .ofNat e.2) = some e := by
  obtain ⟨n, hn, rfl⟩ := Option.map_eq_some_iff.1 h
  have hcount : Document.count? (.ofNat n) = some n := Restores.count m.2 n hn
  rw [quantity?, hcount]
  rfl

theorem restores_quantities : Restores quantities? quantityRecord id := by
  intro d sorted h
  cases d with
  | record ms =>
    obtain ⟨entries, hentries, h⟩ := Option.bind_eq_some_iff.1 h
    cases h
    have hread : ∀ e ∈ entries, quantity? (e.1, .ofNat e.2) = some (id e) :=
      forall_of_mapM quantity?_of_quantity? hentries
    -- filing puts the entries in order, and keeps each of them as it was read
    have hempty : Ordered [] := List.Pairwise.nil
    obtain ⟨hordered, hfiled⟩ := filed_foldl hempty (by simp) hread
    have hagain := mapM_map_eq_some hfiled
    rw [List.map_id] at hagain
    exact read_bind hagain (congrArg some (foldl_insertSorted hordered))
  | _ => cases h

end SizingSettings

section Settings

variable (format : Format)

theorem restores_lockoutSettings : Restores (decode format) (encode (α := LockoutSettings)) id := by
  refine .record (fun _ => rfl) (by decide) ?_
  intro m s h
  simp only [Option.bind_eq_bind, Option.bind_eq_some_iff, Option.pure_def, Option.some.injEq] at h
  obtain ⟨threshold, hthreshold, minutes, hminutes, losses, hlosses, rfl⟩ := h
  have hoption := Restores.count.option (fun _ => nofun)
  rw [Option.map_id_fun] at hoption
  exact read_bind (Restores.count.defaulted rfl hthreshold) <|
    read_bind (Restores.int64.defaulted rfl hminutes) <|
    read_bind (hoption.defaulted rfl hlosses) rfl

theorem restores_sizingSettings : Restores (decode format) (encode (α := SizingSettings)) id := by
  refine .record (fun _ => rfl) (by decide) ?_
  intro m s h
  simp only [Option.bind_eq_bind, Option.bind_eq_some_iff, Option.pure_def, Option.some.injEq] at h
  obtain ⟨bracket, hbracket, quantities, hquantities, rfl⟩ := h
  exact read_bind ((restores_bracket format).defaulted rfl hbracket) <|
    read_bind (SizingSettings.restores_quantities.defaulted rfl hquantities) rfl

theorem restores_eventSettings : Restores (decode format) (encode (α := EventSettings)) id := by
  refine .record (fun _ => rfl) (by decide) ?_
  intro m s h
  simp only [Option.bind_eq_bind, Option.bind_eq_some_iff, Option.pure_def, Option.some.injEq] at h
  obtain ⟨enabled, henabled, capacity, hcapacity, tags, htags, rfl⟩ := h
  exact read_bind ((Restores.bool format).defaulted rfl henabled) <|
    read_bind (Restores.size.defaulted rfl hcapacity) <|
    read_bind ((restores_texts format).defaulted rfl htags) rfl

theorem restores_logSettings : Restores (decode format) (encode (α := LogSettings)) id := by
  refine .record (fun _ => rfl) (by decide) ?_
  intro m s h
  simp only [Option.bind_eq_bind, Option.bind_eq_some_iff, Option.pure_def, Option.some.injEq] at h
  obtain ⟨level, hlevel, style, hstyle, rfl⟩ := h
  exact read_bind ((Restores.string format).defaulted rfl hlevel) <|
    read_bind ((Restores.string format).defaulted rfl hstyle) rfl

theorem restores_settings : Restores (decode format) encode Settings.unsignedZeros := by
  refine .record (fun _ => rfl) (by decide) ?_
  intro m s h
  simp only [Option.bind_eq_bind, Option.bind_eq_some_iff, Option.pure_def, Option.some.injEq] at h
  obtain ⟨mode, hmode, tick, htick, timezone, htimezone, stamp, hstamp, lockout, hlockout, caps, hcaps,
    tiers, htiers, sizing, hsizing, trailing, htrailing, events, hevents, logging, hlogging, rfl⟩ := h
  exact read_bind ((restores_riskMode format).defaulted rfl hmode) <|
    read_bind ((restores_decimal format).defaulted rfl htick) <|
    read_bind ((Restores.string format).defaulted rfl htimezone) <|
    read_bind ((restores_optionalText format).defaulted rfl hstamp) <|
    read_bind ((restores_lockoutSettings format).defaulted rfl hlockout) <|
    read_bind ((restores_riskCaps format).defaulted rfl hcaps) <|
    read_bind ((restores_riskTiers format).defaulted rfl htiers) <|
    read_bind ((restores_sizingSettings format).defaulted rfl hsizing) <|
    read_bind ((restores_trailingProfile format).defaulted rfl htrailing) <|
    read_bind ((restores_eventSettings format).defaulted rfl hevents) <|
    read_bind ((restores_logSettings format).defaulted rfl hlogging) rfl

theorem bands_of_settings (d : Document) (s : Settings) (h : decode format d = some s)
    (mode : RiskMode) : (s.tiers.forMode mode).min ≤ (s.tiers.forMode mode).max := by
  obtain ⟨m, -, h⟩ := Option.bind_eq_some_iff.1 h
  simp only [Option.bind_eq_bind, Option.bind_eq_some_iff, Option.pure_def, Option.some.injEq] at h
  obtain ⟨_, -, _, -, _, -, _, -, _, -, _, -, tiers, htiers, _, -, _, -, _, -, _, -, rfl⟩ := h
  refine Members.of_defaulted? (fun t => (t.forMode mode).min ≤ (t.forMode mode).max)
    (fun d t ht => bands_of_decode format d t ht mode) ?_ htiers
  cases mode <;> decide

end Settings

/-! ## Reading again -/

/-- What is written for a value that was read is read as that value once it has settled, and from then
on as the very same value. -/
structure RoundTrips (α : Type) [Codec α] (settle : α → α) : Prop where
  again : ∀ d x, decode .json d = some x → decode .json (encode x) = some (settle x)
  settled : ∀ d x, decode .json d = some x → decode .json (encode (settle x)) = some (settle x)

theorem Restores.roundTrips {α : Type} [Codec α] {settle : α → α}
    (h : Restores (decode .json) encode settle) (hsettle : ∀ x, settle (settle x) = settle x) :
    RoundTrips α settle := by
  refine ⟨h, ?_⟩
  intro d x hx
  have htwice := h (encode x) (settle x) (h d x hx)
  rw [hsettle] at htwice
  exact htwice

theorem Restores.exactly {α : Type} [Codec α] (h : Restores (decode .json) (encode (α := α)) id) :
    RoundTrips α id :=
  h.roundTrips fun _ => rfl

@[simp]
theorem Decimal.unsignedZero_unsignedZero (a : Decimal) :
    a.unsignedZero.unsignedZero = a.unsignedZero := by
  simp [unsignedZero]

theorem Decimal.unsignedZero_eq_self_iff (a : Decimal) :
    a.unsignedZero = a ↔ ¬(a.negative = true ∧ a.digits = 0) := by
  obtain ⟨negative, digits, scale, hdigits, hscale⟩ := a
  cases negative <;> simp [unsignedZero]

theorem TrailingProfile.unsignedZeros_unsignedZeros (p : TrailingProfile) :
    p.unsignedZeros.unsignedZeros = p.unsignedZeros := by
  simp [unsignedZeros]

theorem OrderIntent.unsignedZeros_unsignedZeros (o : OrderIntent) :
    o.unsignedZeros.unsignedZeros = o.unsignedZeros := by
  simp [unsignedZeros]

theorem EntryPlan.unsignedZeros_unsignedZeros (p : EntryPlan) :
    p.unsignedZeros.unsignedZeros = p.unsignedZeros := by
  have horder : OrderIntent.unsignedZeros ∘ OrderIntent.unsignedZeros = OrderIntent.unsignedZeros :=
    funext OrderIntent.unsignedZeros_unsignedZeros
  simp [unsignedZeros, horder]

theorem EntryRequest.unsignedZeros_unsignedZeros (r : EntryRequest) :
    r.unsignedZeros.unsignedZeros = r.unsignedZeros := by
  simp [unsignedZeros, TrailingProfile.unsignedZeros_unsignedZeros]

theorem RiskCaps.unsignedZeros_unsignedZeros (c : RiskCaps) :
    c.unsignedZeros.unsignedZeros = c.unsignedZeros := by
  simp [unsignedZeros]

theorem RiskSnapshot.unsignedZeros_unsignedZeros (s : RiskSnapshot) :
    s.unsignedZeros.unsignedZeros = s.unsignedZeros := by
  simp [unsignedZeros]

theorem Settings.unsignedZeros_unsignedZeros (s : Settings) :
    s.unsignedZeros.unsignedZeros = s.unsignedZeros := by
  simp [unsignedZeros, RiskCaps.unsignedZeros_unsignedZeros,
    TrailingProfile.unsignedZeros_unsignedZeros]

/-- Values that were read, written and read again are the same but for the minus signs of zeros among
their decimals, and those that hold no decimal are the very same.  A band that was read has a minimum
that is not above its maximum. -/
theorem decode_undoes_encode :
    (∀ a : Decimal, a.unsignedZero = a ↔ ¬(a.negative = true ∧ a.digits = 0)) ∧
      (RoundTrips Decimal .unsignedZero ∧ RoundTrips OrderIntent .unsignedZeros ∧
        RoundTrips EntryPlan .unsignedZeros ∧ RoundTrips EntryRequest .unsignedZeros ∧
        RoundTrips TrailingProfile .unsignedZeros ∧ RoundTrips RiskCaps .unsignedZeros ∧
        RoundTrips RiskSnapshot .unsignedZeros ∧ RoundTrips Settings .unsignedZeros) ∧
      (RoundTrips RiskMode id ∧ RoundTrips LockoutState id ∧ RoundTrips Side id ∧
        RoundTrips OrderKind id ∧ RoundTrips TrailingKind id ∧ RoundTrips RiskDecision id) ∧
      (RoundTrips PositionIntent id ∧ RoundTrips Tier id ∧ RoundTrips RiskTiers id ∧
        RoundTrips Bracket id ∧ RoundTrips SizeDecision id ∧ RoundTrips DiagnosticEvent id) ∧
      (RoundTrips TimeOfDay id ∧ RoundTrips LocalDateTime id ∧ RoundTrips TimeWindow id ∧
        RoundTrips CalendarDay id ∧ RoundTrips DayRecord id ∧ RoundTrips SymbolCalendar id ∧
        RoundTrips CalendarDocument id) ∧
      (RoundTrips LockoutSettings id ∧ RoundTrips SizingSettings id ∧ RoundTrips EventSettings id ∧
        RoundTrips LogSettings id) ∧
      (∀ d (t : Tier), decode .json d = some t → t.min ≤ t.max) ∧
      (∀ d (t : RiskTiers), decode .json d = some t →
        ∀ mode, (t.forMode mode).min ≤ (t.forMode mode).max) ∧
      ∀ d (s : Settings), decode .json d = some s →
        ∀ mode, (s.tiers.forMode mode).min ≤ (s.tiers.forMode mode).max := by
  refine ⟨Decimal.unsignedZero_eq_self_iff, ⟨?_, ?_, ?_, ?_, ?_, ?_, ?_, ?_⟩, ⟨?_, ?_, ?_, ?_, ?_, ?_⟩,
    ⟨?_, ?_, ?_, ?_, ?_, ?_⟩, ⟨?_, ?_, ?_, ?_, ?_, ?_, ?_⟩, ⟨?_, ?_, ?_, ?_⟩,
    min_le_max_of_decode .json, bands_of_decode .json, bands_of_settings .json⟩
  · exact (restores_decimal .json).roundTrips Decimal.unsignedZero_unsignedZero
  · exact (restores_orderIntent .json).roundTrips OrderIntent.unsignedZeros_unsignedZeros
  · exact (restores_entryPlan .json).roundTrips EntryPlan.unsignedZeros_unsignedZeros
  · exact (restores_entryRequest .json).roundTrips EntryRequest.unsignedZeros_unsignedZeros
  · exact (restores_trailingProfile .json).roundTrips TrailingProfile.unsignedZeros_unsignedZeros
  · exact (restores_riskCaps .json).roundTrips RiskCaps.unsignedZeros_unsignedZeros
  · exact (restores_riskSnapshot .json).roundTrips RiskSnapshot.unsignedZeros_unsignedZeros
  · exact (restores_settings .json).roundTrips Settings.unsignedZeros_unsignedZeros
  · exact (restores_riskMode .json).exactly
  · exact (restores_lockoutState .json).exactly
  · exact (restores_side .json).exactly
  · exact (restores_orderKind .json).exactly
  · exact (restores_trailingKind .json).exactly
  · exact (restores_riskDecision .json).exactly
  · exact (restores_positionIntent .json).exactly
  · exact (restores_tier .json).exactly
  · exact (restores_riskTiers .json).exactly
  · exact (restores_bracket .json).exactly
  · exact (restores_sizeDecision .json).exactly
  · exact (restores_diagnosticEvent .json).exactly
  · exact (restores_timeOfDay .json).exactly
  · exact (restores_localDateTime .json).exactly
  · exact (restores_timeWindow .json).exactly
  · exact (restores_calendarDay .json).exactly
  · exact (restores_dayRecord .json).exactly
  · exact (restores_symbolCalendar .json).exactly
  · exact (restores_calendarDocument .json).exactly
  · exact (restores_lockoutSettings .json).exactly
  · exact (restores_sizingSettings .json).exactly
  · exact (restores_eventSettings .json).exactly
  · exact (restores_logSettings .json).exactly

/-- What rounds to zero from below keeps its minus sign when it is read, and loses it when what is
written for it is read. -/
theorem negative_zero_not_restored :
    let zero : Decimal := ⟨true, 0, 28, by decide, by decide⟩
    decode .json (.text "-0.4e-28") = some zero ∧
      decode .json (encode zero) = some zero.unsignedZero ∧
      decode .json (encode zero) ≠ some zero ∧ encode zero.unsignedZero ≠ encode zero := by
  intro zero
  have hagain : decode .json (encode zero) = some zero.unsignedZero := zero.parse?_render
  refine ⟨by decide +kernel, hagain, ?_, ?_⟩
  · rw [hagain]
    decide
  · intro hsame
    injection hsame with htext
    revert htext
    decide +kernel

/-- A request given as a list of its members, with blanks in its time, a leap second in a year before
the first one, an alternative given as a record, and two members left out; and a band whose maximum is
below its minimum. -/
theorem decode_undoes_encode_of_leap_second :
    let request : Document := .list
      [ .text " -0044-2-29 T 3:4:60.5", .text "ES", .text "Long", .record [("Limit", .null)],
        .text "1.50" ]
    let band : Document := .record [("max", .integer 2), ("min", .integer 3)]
    let r : EntryRequest :=
      ⟨⟨⟨-44, 2, 29⟩, ⟨11099, 1500000000, by decide, by decide⟩⟩, "ES", .long, .limit,
        ⟨false, 150, 2, by decide, by decide⟩, .defaults, .quarter⟩
    let t : Tier := ⟨3, 3, ""⟩
    decode .json request = some r ∧ decode .json (encode r) = some r ∧
      decode .json band = some t ∧ decode .json (encode t) = some t ∧ t.min ≤ t.max := by
  intro request band r t
  have hrequest : decode .json request = some r := by decide +kernel
  have hband : decode .json band = some t := by decide +kernel
  obtain ⟨-, ⟨-, -, -, hrequests, -⟩, -, ⟨-, htiers, -⟩, -, -, hbands, -⟩ := decode_undoes_encode
  exact ⟨hrequest, hrequests.again request r hrequest, hband, htiers.again band t hband,
    hbands band t hband⟩

end EntryGate
