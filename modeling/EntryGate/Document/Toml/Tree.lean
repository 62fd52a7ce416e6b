import EntryGate.Document.Basic

/-!
# TOML: tables

The tables of a TOML text are built up line by line: headers open tables, dotted keys create tables
on the way, and every key may be given once.  A tree remembers how each table came about, since that
decides whether it may still be opened or extended.

* `Tree.putKey?` adds a key with its value to the table that is open;
* `Tree.present?`, `Tree.openArray?`, `Tree.close?` and `Tree.closeItem?` open and close tables of
  the whole tree.
-/

namespace EntryGate

namespace Toml

/-- How a table came about. -/
inductive Origin where
  /-- By a header of its own. -/
  | header
  /-- On the way to a table with a header. -/
  | implied
  /-- On the way to a dotted key. -/
  | dotted
deriving DecidableEq, Repr

/-- What a key stands for. -/
inductive Node where
  | value (d : Document)
  | table (origin : Origin) (entries : List (String × Node))
  /-- The tables of an array, each opened by a header. -/
  | tables (items : List (List (String × Node)))

/-- The keys of a table. -/
abbrev Tree := List (String × Node)

namespace Tree

def find? (t : Tree) (key : String) : Option Node :=
  (List.find? (fun e => e.1 == key) t).map Prod.snd

def replace (t : Tree) (key : String) (n : Node) : Tree :=
  t.map fun e => if e.1 == key then (key, n) else e

def erase (t : Tree) (key : String) : Tree :=
  t.filter fun e => e.1 != key

/-- The array with its last table changed. -/
def replaceLast (items : List Tree) (t : Tree) : List Tree :=
  items.dropLast ++ [t]

/-- Adds a value under a key that may have parts in front of it.  Tables on the way are created, or
extended if dotted keys have made them. -/
def putKey? (key : String) (d : Document) : List String → Tree → Option Tree
  | [], t => if (t.find? key).isSome then none else some (t ++ [(key, .value d)])
  | part :: path, t =>
    match t.find? part with
    | none => (putKey? key d path []).map fun e => t ++ [(part, .table .dotted e)]
    | some (.table origin e) =>
      if origin = .header ∨ (path.isEmpty ∧ origin ≠ .dotted) then none
      else (putKey? key d path e).map fun e => t.replace part (.table origin e)
    | some (.tables items) =>
      match items.getLast? with
      | some e =>
        if path.isEmpty then none
        else (putKey? key d path e).map fun e => t.replace part (.tables (replaceLast items e))
      | none => none
    | some (.value _) => none

/-- Follows a path of tables, which are created where they are missing, and changes the table at
its end. -/
def descend? (change : Tree → Option Tree) : List String → Tree → Option Tree
  | [], t => change t
  | part :: path, t =>
    match t.find? part with
    | none => (descend? change path []).map fun e => t ++ [(part, .table .implied e)]
    | some (.table origin e) =>
      (descend? change path e).map fun e => t.replace part (.table origin e)
    | some (.tables items) =>
      match items.getLast? with
      | some e =>
        (descend? change path e).map fun e => t.replace part (.tables (replaceLast items e))
      | none => none
    | some (.value _) => none

/-- The keys that a table about to be opened by a header has already, from headers below it.  A
table that was opened before, or is the work of dotted keys, cannot be opened. -/
def present? (key : String) : List String → Tree → Option Tree
  | [], t =>
    match t.find? key with
    | none => some []
    | some (.table .implied e) => some e
    | some _ => none
  | part :: path, t =>
    match t.find? part with
    | none => some []
    | some (.table _ e) => present? key path e
    | some (.tables items) => items.getLast?.bind (present? key path)
    | some (.value _) => none

/-- Puts a table that is complete in its place. -/
def close? (t : Tree) (path : List String) (key : String) (content : Tree) : Option Tree :=
  descend? (fun t => some (t.erase key ++ [(key, .table .header content)])) path t

/-- Makes sure that there is an array of tables under a key. -/
def openArray? (path : List String) (key : String) (t : Tree) : Option Tree :=
  descend?
    (fun t =>
      match t.find? key with
      | none => some (t ++ [(key, .tables [])])
      | some (.tables _) => some t
      | some _ => none)
    path t

/-- Puts a table that is complete at the end of its array. -/
def closeItem? (t : Tree) (path : List String) (key : String) (content : Tree) : Option Tree :=
  descend?
    (fun t =>
      match t.find? key with
      | none => some (t ++ [(key, .tables [content])])
      | some (.tables items) => some (t.replace key (.tables (items ++ [content])))
      | some _ => none)
    path t

end Tree

mutual

/-- The document that a node stands for. -/
def Node.toDocument : Node → Document
  | .value d => d
  | .table _ entries => .record (entriesToMembers entries)
  | .tables items => .list (itemsToDocuments items)

def entriesToMembers : List (String × Node) → List (String × Document)
  | [] => []
  | (key, n) :: rest => (key, n.toDocument) :: entriesToMembers rest

def itemsToDocuments : List (List (String × Node)) → List Document
  | [] => []
  | t :: rest => .record (entriesToMembers t) :: itemsToDocuments rest

end

end Toml

end EntryGate
