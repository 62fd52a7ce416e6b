import EntryGate.Proofs.TableEntries
import EntryGate.Session.Calendar
import Mathlib.Data.Finset.Card
import Mathlib.Data.List.Induction

/-!
# What a calendar answers

A calendar is filed section by section and record by record, under the key of the symbol and, below it,
under the date.  A symbol may come up in several sections, in different spellings, and so may a date.
What the table answers in the end is said here without it: by the list of all records of the document.

* `CalendarDocument.records` are the records of all sections in their order, and
  `DayTable.ofDocument_eq` files them in one go;
* `DayTable.Files` ties a table to the records that were filed.  `DayTable.Files.file` is one record, and
  `DayTable.files_foldl` any number of them;
* `DayTable.last_record_counts` is the result for documents.
-/

namespace EntryGate

open Text

namespace CalendarDocument

/-- The records of all sections in the order of the document, with the symbols of their sections. -/
def records (c : CalendarDocument) : List (String × DayRecord) :=
  c.symbols.flatMap fun s => s.days.map fun r => (s.symbol, r)

/-- The document without the records whose dates cannot be read. -/
def legible (c : CalendarDocument) : CalendarDocument :=
  ⟨c.symbols.map fun s => ⟨s.symbol, s.days.filter fun r => (Date.parseRecord? r.date).isSome⟩⟩

/-- The record of a section with the given symbol is one for the symbol and the date in question. -/
def Concerns (symbol : String) (date : Date) (e : String × DayRecord) : Prop :=
  symbolKey e.1 = symbolKey symbol ∧ Date.parseRecord? e.2.date = some date

instance (symbol : String) (date : Date) (e : String × DayRecord) :
    Decidable (Concerns symbol date e) :=
  inferInstanceAs (Decidable (_ ∧ _))

end CalendarDocument

open CalendarDocument

namespace DayTable

/-! ## Filing -/

/-- Files one record, if its date can be read. -/
def file (t : DayTable) (e : String × DayRecord) : DayTable :=
  match Date.parseRecord? e.2.date with
  | some date => t.insert e.1 date e.2.day
  | none => t

theorem insertSection_eq (t : DayTable) (s : SymbolCalendar) :
    t.insertSection s = (s.days.map fun r => (s.symbol, r)).foldl file t := by
  rw [List.foldl_map]
  rfl

theorem ofDocument_eq (c : CalendarDocument) : ofDocument c = c.records.foldl file empty := by
  rw [ofDocument, records, List.foldl_flatMap]
  exact congrArg (fun step => c.symbols.foldl step empty) (funext₂ insertSection_eq)

/-- A section can do without the records whose dates cannot be read. -/
theorem insertSection_legible (t : DayTable) (s : SymbolCalendar) :
    t.insertSection ⟨s.symbol, s.days.filter fun r => (Date.parseRecord? r.date).isSome⟩ =
      t.insertSection s := by
  rw [insertSection, insertSection, List.foldl_filter]
  refine congrArg (fun step => s.days.foldl step t) (funext₂ fun t r => ?_)
  -- a record is left out exactly where filing it would have left the table alone
  cases hdate : Date.parseRecord? r.date with
  | none => simp
  | some date => simp

theorem ofDocument_legible (c : CalendarDocument) : ofDocument c.legible = ofDocument c := by
  rw [ofDocument, legible, List.foldl_map]
  exact congrArg (fun step => c.symbols.foldl step empty) (funext₂ insertSection_legible)

/-! ## Looking up -/

theorem load?_insert (t : DayTable) (symbol other : String) (date date' : Date) (day : CalendarDay) :
    (t.insert symbol date day).load? other date' =
      if symbolKey symbol = symbolKey other ∧ date = date' then some day
      else t.load? other date' := by
  rw [load?, load?, insert, Table.get?_put]
  by_cases hkey : symbolKey symbol = symbolKey other
  · rw [if_pos hkey, Option.bind_some, Table.get?_put, ← hkey]
    by_cases hdate : date = date'
    · rw [if_pos hdate, if_pos ⟨rfl, hdate⟩]
    · rw [if_neg hdate, if_neg fun h => hdate h.2]
      -- a key without a section has an empty one from here on
      cases t.sections.get? (symbolKey symbol) with
      | none => rfl
      | some days => rfl
  · rw [if_neg hkey, if_neg fun h => hkey h.1]

section Step

variable (t : DayTable) (e : String × DayRecord)

theorem load?_file (symbol : String) (date : Date) :
    (t.file e).load? symbol date =
      if Concerns symbol date e then some e.2.day else t.load? symbol date := by
  rw [file]
  cases hdate : Date.parseRecord? e.2.date with
  | none => simp [Concerns, hdate]
  | some found => simp [Concerns, hdate, load?_insert]

theorem mem_keys_file (key : String) :
    key ∈ (t.file e).sections.entries.map Prod.fst ↔
      key ∈ t.sections.entries.map Prod.fst ∨
        (Date.parseRecord? e.2.date).isSome ∧ symbolKey e.1 = key := by
  rw [file]
  cases Date.parseRecord? e.2.date with
  | none => simp
  | some found =>
    show key ∈ (t.sections.put _ _).entries.map Prod.fst ↔ _
    rw [Table.mem_keys_put, or_comm, eq_comm]
    simp

variable {t} in
theorem distinct_file (h : t.sections.Distinct) : (t.file e).sections.Distinct := by
  rw [file]
  cases Date.parseRecord? e.2.date with
  | none => exact h
  | some found => exact Table.distinct_put h _ _

end Step

/-- What a table holds into which the given records were filed. -/
structure Files (t : DayTable) (records : List (String × DayRecord)) : Prop where
  load? : ∀ symbol date, t.load? symbol date =
    ((records.filter fun e => Concerns symbol date e).getLast?).map fun e => e.2.day
  distinct : t.sections.Distinct
  keys : ∀ key, key ∈ t.sections.entries.map Prod.fst ↔
    ∃ e ∈ records, (Date.parseRecord? e.2.date).isSome ∧ symbolKey e.1 = key

theorem files_empty : empty.Files [] where
  load? _ _ := rfl
  distinct := List.nodup_nil
  keys _ := by simp [empty, Table.empty]

theorem Files.file {t : DayTable} {records : List (String × DayRecord)} (h : t.Files records)
    (e : String × DayRecord) : (t.file e).Files (records ++ [e]) := by
  refine ⟨?_, distinct_file e h.distinct, ?_⟩
  · intro symbol date
    rw [load?_file, h.load? symbol date, List.filter_append]
    -- the new record is the last one, if it counts at all
    by_cases hconcerns : Concerns symbol date e
    · simp [hconcerns]
    · simp [hconcerns]
  · intro key
    rw [mem_keys_file, h.keys key]
    constructor
    · rintro (⟨earlier, hmem, hkey⟩ | hkey)
      · exact ⟨earlier, List.mem_append_left _ hmem, hkey⟩
      · exact ⟨e, List.mem_append_right _ List.mem_cons_self, hkey⟩
    · rintro ⟨found, hmem, hkey⟩
      rcases List.mem_append.1 hmem with hmem | hmem
      · exact .inl ⟨found, hmem, hkey⟩
      · rw [List.mem_singleton.1 hmem] at hkey
        exact .inr hkey

theorem files_foldl (records : List (String × DayRecord)) :
    (records.foldl file empty).Files records := by
  -- from the end, since the last record is the one that was filed last
  induction records using List.reverseRecOn with
  | nil => exact files_empty
  | append_singleton records e ih =>
    rw [List.foldl_append]
    exact ih.file e

/-- The size of a table is the number of different keys among the records that could be filed. -/
theorem Files.symbolCount_eq {t : DayTable} {records : List (String × DayRecord)}
    (h : t.Files records) :
    t.symbolCount =
      ((records.filter fun e => (Date.parseRecord? e.2.date).isSome).map
        fun e => symbolKey e.1).toFinset.card := by
  -- the keys of the table do not repeat, so counting them is counting the set
  have hkeys : (t.sections.entries.map Prod.fst).toFinset =
      ((records.filter fun e => (Date.parseRecord? e.2.date).isSome).map
        fun e => symbolKey e.1).toFinset := by
    ext key
    rw [List.mem_toFinset, List.mem_toFinset, h.keys key, List.mem_map]
    simp only [List.mem_filter, and_assoc]
  rw [← hkeys, List.toFinset_card_of_nodup h.distinct, List.length_map]
  rfl

/-- The day of a symbol on a date is that of the last record, over all sections, whose section has a
symbol with the same key and whose date is that date; there is none if there is no such record.
Records whose dates cannot be read make no difference, and the symbols that are counted are the
different keys with a record whose date can be read. -/
theorem last_record_counts (c : CalendarDocument) :
    (∀ symbol date, (ofDocument c).load? symbol date =
        ((c.records.filter fun e => Concerns symbol date e).getLast?).map fun e => e.2.day) ∧
      ofDocument c.legible = ofDocument c ∧
      (ofDocument c).symbolCount =
        ((c.records.filter fun e => (Date.parseRecord? e.2.date).isSome).map
          fun e => symbolKey e.1).toFinset.card := by
  have hfiles : (ofDocument c).Files c.records := by
    rw [ofDocument_eq]
    exact files_foldl c.records
  exact ⟨hfiles.load?, ofDocument_legible c, hfiles.symbolCount_eq⟩

/-- The second section spells the symbol and the date of the first one in another way and replaces its
day; the third one has no date that can be read. -/
example :
    let early : CalendarDay := ⟨some "16:00-16:15", []⟩
    let late : CalendarDay := ⟨none, ["08:29-08:31"]⟩
    let t := ofDocument
      ⟨[⟨"ES", [⟨"2025-09-02", early⟩, ⟨"2025-09-31", late⟩]⟩,
        ⟨" es", [⟨" 2025-9-2", late⟩]⟩,
        ⟨"NQ", [⟨"soon", early⟩]⟩]⟩
    t.load? "Es " ⟨2025, 9, 2⟩ = some late ∧ t.load? "NQ" ⟨2025, 9, 2⟩ = none ∧
      t.symbolCount = 1 := by
  decide

end DayTable
end EntryGate
