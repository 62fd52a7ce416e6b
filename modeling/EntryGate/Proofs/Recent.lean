import Mathlib.Data.List.Basic

/-!
# The recent part of a history

A history is a list of events, of which the first one happened first.  What it has led to often
depends on its end only.

* `latest` is the last value that the events bring;
* `since` are the events after the last one of a kind, and `upTo` the ones before them.
-/

namespace EntryGate

variable {α β : Type}

/-- The last value that the events bring, or a default if they bring none. -/
def latest (f : α → Option β) (default : β) (events : List α) : β :=
  ((events.filterMap f).getLast?).getD default

/-- The events after the last one of a kind, or all of them. -/
def since (p : α → Bool) (events : List α) : List α :=
  (events.reverse.takeWhile fun e => !p e).reverse

/-- The events up to the last one of a kind, with that one, or none of them. -/
def upTo (p : α → Bool) (events : List α) : List α :=
  (events.reverse.dropWhile fun e => !p e).reverse

theorem latest_append (f : α → Option β) (default : β) (events : List α) (e : α) :
    latest f default (events ++ [e]) = (f e).getD (latest f default events) := by
  cases h : f e with
  | none => simp [latest, h]
  | some value => simp [latest, h]

theorem since_append (p : α → Bool) (events : List α) (e : α) :
    since p (events ++ [e]) = if p e then [] else since p events ++ [e] := by
  rw [since, List.reverse_append, List.reverse_singleton, List.singleton_append,
    List.takeWhile_cons]
  cases p e with
  | true => rfl
  | false => simp [since]

/-- What is since the last event of a kind, and what is before, is the whole history. -/
theorem upTo_append_since (p : α → Bool) (events : List α) :
    upTo p events ++ since p events = events := by
  rw [upTo, since, ← List.reverse_append, List.takeWhile_append_dropWhile, List.reverse_reverse]

end EntryGate
