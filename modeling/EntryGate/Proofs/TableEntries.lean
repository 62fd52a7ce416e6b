import EntryGate.Table
import Mathlib.Data.List.Nodup

/-!
# The entries of a table

A table is a list of entries in which no key comes up twice, as long as it is filled by putting values
into it.  So its size is the number of its keys, and its contents determine its entries up to their
order.

* `Table.keys_replace` is all that putting a value does to the keys;
* `Table.Distinct` is kept by it (`Table.distinct_put`);
* `Table.entries_perm` says that two tables with the same contents differ in their order only.
-/

namespace EntryGate

namespace Table

variable {κ ν : Type} [DecidableEq κ]

theorem keys_replace (key : κ) (value : ν) (es : List (κ × ν)) :
    (replace key value es).map Prod.fst =
      if key ∈ es.map Prod.fst then es.map Prod.fst else es.map Prod.fst ++ [key] := by
  induction es with
  | nil => simp [replace]
  | cons e rest ih =>
    obtain ⟨k, v⟩ := e
    by_cases hk : k = key
    · simp [replace, hk]
    · rw [replace, if_neg hk, List.map_cons, ih, List.map_cons]
      by_cases hmem : key ∈ rest.map Prod.fst
      · rw [if_pos hmem, if_pos (List.mem_cons_of_mem _ hmem)]
      · have hnot : key ∉ k :: rest.map Prod.fst := by
          rw [List.mem_cons]
          rintro (heq | hin)
          · exact hk heq.symm
          · exact hmem hin
        rw [if_neg hmem, if_neg hnot, List.cons_append]

theorem mem_keys_put {t : Table κ ν} {key other : κ} {value : ν} :
    other ∈ (t.put key value).entries.map Prod.fst ↔
      other = key ∨ other ∈ t.entries.map Prod.fst := by
  rw [put, keys_replace]
  split
  · next hold =>
    constructor
    · exact .inr
    · rintro (rfl | hmem)
      · exact hold
      · exact hmem
  · rw [List.mem_append, List.mem_singleton, or_comm]

/-- Every key is filed once. -/
def Distinct (t : Table κ ν) : Prop :=
  (t.entries.map Prod.fst).Nodup

theorem distinct_put {t : Table κ ν} (h : t.Distinct) (key : κ) (value : ν) :
    (t.put key value).Distinct := by
  rw [Distinct, put, keys_replace]
  split
  · exact h
  · next hnew =>
    rw [List.nodup_append]
    refine ⟨h, List.nodup_singleton key, ?_⟩
    intro k hk other hother heq
    rw [List.mem_singleton] at hother
    exact hnew (hother ▸ heq ▸ hk)

/-- What is filed once can be looked up. -/
theorem mem_iff_find? {es : List (κ × ν)} (h : (es.map Prod.fst).Nodup) (key : κ) (value : ν) :
    (key, value) ∈ es ↔ find? key es = some value := by
  induction es with
  | nil => simp [find?]
  | cons e rest ih =>
    obtain ⟨k, v⟩ := e
    rw [List.map_cons, List.nodup_cons] at h
    by_cases hk : k = key
    · -- the first entry is the one, and no later entry has its key
      have hrest : (key, value) ∉ rest := by
        intro hmem
        exact h.1 (hk ▸ List.mem_map.2 ⟨(key, value), hmem, rfl⟩)
      rw [find?, if_pos hk, List.mem_cons, Option.some.injEq]
      constructor
      · rintro (heq | hmem)
        · exact (Prod.mk.inj heq).2.symm
        · exact absurd hmem hrest
      · rintro rfl
        exact .inl (by rw [hk])
    · rw [find?, if_neg hk, ← ih h.2, List.mem_cons]
      constructor
      · rintro (heq | hmem)
        · exact absurd (Prod.mk.inj heq).1.symm hk
        · exact hmem
      · exact .inr

/-- Two tables in which every key has the same value differ in their order only. -/
theorem entries_perm {t t' : Table κ ν} (h : t.Distinct) (h' : t'.Distinct)
    (hget : ∀ key, t.get? key = t'.get? key) : t.entries.Perm t'.entries := by
  rw [List.perm_ext_iff_of_nodup (List.Nodup.of_map _ h) (List.Nodup.of_map _ h')]
  rintro ⟨key, value⟩
  have hkey : find? key t.entries = find? key t'.entries := hget key
  rw [mem_iff_find? h, mem_iff_find? h', hkey]

theorem values_perm {t t' : Table κ ν} (h : t.Distinct) (h' : t'.Distinct)
    (hget : ∀ key, t.get? key = t'.get? key) : t.values.Perm t'.values :=
  (entries_perm h h' hget).map Prod.snd

end Table

end EntryGate
