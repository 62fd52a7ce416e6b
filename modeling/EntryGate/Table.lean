/-!
# Tables

Values filed by key, each key once, in the order in which the keys first came up.  Calendars,
quantity overrides and ledgers are tables.

* `Table.put` files a value in place of the one that is already there;
* `Table.get?` looks a value up, and sees the last value that was put.
-/

namespace EntryGate

/-- Values by key. -/
structure Table (κ ν : Type) where
  entries : List (κ × ν)
deriving DecidableEq, Repr

namespace Table

variable {κ ν : Type} [DecidableEq κ]

def empty : Table κ ν := ⟨[]⟩

/-- The value in a list of entries under a key. -/
def find? (key : κ) : List (κ × ν) → Option ν
  | [] => none
  | (k, v) :: rest => if k = key then some v else find? key rest

/-- A list of entries with the value under a key replaced or added. -/
def replace (key : κ) (value : ν) : List (κ × ν) → List (κ × ν)
  | [] => [(key, value)]
  | (k, v) :: rest => if k = key then (k, value) :: rest else (k, v) :: replace key value rest

/-- The value under a key. -/
def get? (t : Table κ ν) (key : κ) : Option ν :=
  find? key t.entries

/-- Files a value under a key. -/
def put (t : Table κ ν) (key : κ) (value : ν) : Table κ ν :=
  ⟨replace key value t.entries⟩

/-- The number of keys. -/
def size (t : Table κ ν) : Nat :=
  t.entries.length

def isEmpty (t : Table κ ν) : Bool :=
  t.entries.isEmpty

def values (t : Table κ ν) : List ν :=
  t.entries.map Prod.snd

theorem find?_replace (key other : κ) (value : ν) (es : List (κ × ν)) :
    find? other (replace key value es) = if key = other then some value else find? other es := by
  induction es with
  | nil => simp [replace, find?]
  | cons e rest ih =>
    obtain ⟨k, v⟩ := e
    by_cases hk : k = key
    · subst hk
      by_cases ho : k = other <;> simp [replace, find?, ho]
    · by_cases ho : k = other
      · subst ho
        simp [replace, find?, hk, Ne.symm hk]
      · simp [replace, find?, hk, ho, ih]

@[simp]
theorem get?_empty (key : κ) : (empty : Table κ ν).get? key = none := rfl

theorem get?_put (t : Table κ ν) (key other : κ) (value : ν) :
    (t.put key value).get? other = if key = other then some value else t.get? other :=
  find?_replace key other value t.entries

theorem mem_of_find? {key : κ} {value : ν} {es : List (κ × ν)} (h : find? key es = some value) :
    value ∈ es.map Prod.snd := by
  induction es with
  | nil => cases h
  | cons e rest ih =>
    obtain ⟨k, v⟩ := e
    rw [find?] at h
    split at h
    · cases h
      exact List.mem_cons_self
    · exact List.mem_cons_of_mem _ (ih h)

theorem mem_values_of_get? {t : Table κ ν} {key : κ} {value : ν} (h : t.get? key = some value) :
    value ∈ t.values :=
  mem_of_find? h

theorem mem_of_mem_replace {key : κ} {value v : ν} {es : List (κ × ν)}
    (h : v ∈ (replace key value es).map Prod.snd) : v = value ∨ v ∈ es.map Prod.snd := by
  induction es with
  | nil => exact .inl (by simpa [replace] using h)
  | cons e rest ih =>
    obtain ⟨k, first⟩ := e
    rw [replace] at h
    split at h
    · rcases List.mem_cons.1 h with hv | hv
      · exact .inl hv
      · exact .inr (List.mem_cons_of_mem _ hv)
    · rcases List.mem_cons.1 h with hv | hv
      · exact .inr (List.mem_cons.2 (.inl hv))
      · exact (ih hv).imp_right (List.mem_cons_of_mem _)

/-- A table has no values but those that were filed. -/
theorem mem_values_put {t : Table κ ν} {key : κ} {value v : ν}
    (h : v ∈ (t.put key value).values) : v = value ∨ v ∈ t.values :=
  mem_of_mem_replace h

end Table

end EntryGate
