import EntryGate.Document.Toml.Lexeme
import EntryGate.Document.Toml.Tree

/-!
# Documents from TOML text

Reads TOML 1.0: comments, dotted and quoted keys, all forms of strings, numbers, dates and times,
arrays over several lines, inline tables, tables and arrays of tables.  A key that is given twice,
and a table that is opened twice, make the text invalid.

* `Toml.parse?` reads a text as one document.
-/

namespace EntryGate

namespace Toml

/-! ## Values -/

mutual

/-- Reads a value.  `fuel` bounds the work, and `depth` is the nesting that is still allowed. -/
def value? : Nat → Nat → List Char → Option (Document × List Char)
  | 0, _, _ => none
  | fuel + 1, depth, cs =>
    match cs, depth with
    | '[' :: _, 0 => none
    | '\x7b' :: _, 0 => none
    | '[' :: rest, depth + 1 => (items? fuel depth rest).map fun (ds, rest) => (.list ds, rest)
    | '\x7b' :: rest, depth + 1 =>
      match skipSpace rest with
      | '\x7d' :: rest => some (.record [], rest)
      | rest => (pairs? fuel depth [] rest).map fun (t, rest) => (.record (entriesToMembers t), rest)
    | c :: _, _ =>
      if c = '"' ∨ c = '\'' then (string? cs).map fun (s, rest) => (.text s, rest)
      else scalar? cs
    | [], _ => none

/-- Reads the items of an array up to its closing bracket; the last one may have a comma too. -/
def items? : Nat → Nat → List Char → Option (List Document × List Char)
  | 0, _, _ => none
  | fuel + 1, depth, cs =>
    match skipLines (cs.length + 1) cs with
    | ']' :: rest => some ([], rest)
    | cs =>
      match value? fuel depth cs with
      | none => none
      | some (d, rest) =>
        match skipLines (rest.length + 1) rest with
        | ']' :: rest => some ([d], rest)
        | ',' :: rest => (items? fuel depth rest).map fun (ds, rest) => (d :: ds, rest)
        | _ => none

/-- Reads the pairs of an inline table up to its closing brace, adding them to a table. -/
def pairs? : Nat → Nat → Tree → List Char → Option (Tree × List Char)
  | 0, _, _, _ => none
  | fuel + 1, depth, t, cs =>
    match boundedKey? cs with
    | none => none
    | some (path, rest) =>
      match skipSpace rest with
      | '=' :: rest =>
        match value? fuel depth (skipSpace rest) with
        | none => none
        | some (d, rest) =>
          match path.getLast?.bind fun key => t.putKey? key d path.dropLast with
          | none => none
          | some t =>
            match skipSpace rest with
            | '\x7d' :: rest => some (t, rest)
            | ',' :: rest => pairs? fuel depth t rest
            | _ => none
      | _ => none

end

/-! ## Lines -/

/-- The table that the lines at this point belong to. -/
inductive Place where
  | root
  | table (path : List String) (key : String)
  | item (path : List String) (key : String)

/-- A text in the course of being read: the tables that are complete, the one that is open, and its
keys. -/
structure Progress where
  done : Tree
  place : Place
  current : Tree

namespace Progress

/-- Puts the open table in its place. -/
def close? (p : Progress) : Option Tree :=
  match p.place with
  | .root => some p.current
  | .table path key => p.done.close? path key p.current
  | .item path key => p.done.closeItem? path key p.current

/-- Adds a key with its value to the open table. -/
def putKey? (p : Progress) (path : List String) (d : Document) : Option Progress := do
  let key ← path.getLast?
  let current ← p.current.putKey? key d path.dropLast
  return { p with current := current }

/-- Opens a table. -/
def openTable? (p : Progress) (path : List String) : Option Progress := do
  let done ← p.close?
  let key ← path.getLast?
  let current ← done.present? key path.dropLast
  return ⟨done, .table path.dropLast key, current⟩

/-- Opens the next table of an array. -/
def openItem? (p : Progress) (path : List String) : Option Progress := do
  let done ← p.close?
  let key ← path.getLast?
  let done ← done.openArray? path.dropLast key
  return ⟨done, .item path.dropLast key, []⟩

end Progress

/-- Reads a header after its opening brackets: the key and the rest after the closing ones. -/
def header? (closing : List Char) (cs : List Char) : Option (List String × List Char) := do
  let (path, rest) ← boundedKey? cs
  let rest ← Json.word? closing (skipSpace rest)
  let rest ← endOfLine? rest
  return (path, rest)

/-- Reads one line that is not blank. -/
def line? (p : Progress) (cs : List Char) : Option (Progress × List Char) :=
  match cs with
  | '[' :: '[' :: rest => do
    let (path, rest) ← header? [']', ']'] rest
    let p ← p.openItem? path
    return (p, rest)
  | '[' :: rest => do
    let (path, rest) ← header? [']'] rest
    let p ← p.openTable? path
    return (p, rest)
  | _ => do
    let (path, rest) ← boundedKey? cs
    match skipSpace rest with
    | '=' :: rest =>
      let (d, rest) ← value? (2 * rest.length + 2) (nestingLimit - 1) (skipSpace rest)
      let rest ← endOfLine? rest
      let p ← p.putKey? path d
      return (p, rest)
    | _ => none

/-- Reads all lines. -/
def lines? : Nat → Progress → List Char → Option Progress
  | 0, _, _ => none
  | fuel + 1, p, cs =>
    match skipLines (cs.length + 1) cs with
    | [] => some p
    | cs =>
      match line? p cs with
      | some (p, rest) => lines? fuel p rest
      | none => none

/-- Reads a text as one document. -/
def parse? (s : String) : Option Document := do
  let cs := match s.toList with
    | '\uFEFF' :: rest => rest
    | cs => cs
  let p ← lines? (cs.length + 1) ⟨[], .root, []⟩ cs
  let t ← p.close?
  return .record (entriesToMembers t)

end Toml

end EntryGate
