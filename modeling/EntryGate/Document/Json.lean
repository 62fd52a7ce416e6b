import EntryGate.Document.Basic

/-!
# Documents as JSON text

Reading follows the JSON grammar without extensions.  A number without fraction and exponent that
fits 64 bits is an integer; every other number, and `-0`, is a binary number.  Nothing but white
space may follow the document.

What is spelled correctly can always be read, but not everything can be held: a number beyond the
binary numbers, a string with half of a surrogate pair, a record with such a name, and what is
nested more than 127 levels deep.

Writing has a compact form and an indented form.

* `Json.parse?` reads a document;
* `Json.render` and `Json.renderIndented` write one.
-/

namespace EntryGate

open Text

namespace Json

/-! ## Reading: tokens -/

/-- The rest of a text after white space. -/
def skipSpace (cs : List Char) : List Char :=
  cs.dropWhile fun c => c == ' ' || c == '\t' || c == '\n' || c == '\r'

/-- The value of a hexadecimal digit. -/
def hexValue? (c : Char) : Option Nat :=
  if c.isDigit then some (digitValue c)
  else if 'a' ≤ c ∧ c ≤ 'f' then some (c.toNat - 'a'.toNat + 10)
  else if 'A' ≤ c ∧ c ≤ 'F' then some (c.toNat - 'A'.toNat + 10)
  else none

/-- Four hexadecimal digits and the rest of the text. -/
def hex4? : List Char → Option (Nat × List Char)
  | a :: b :: c :: d :: rest => do
    let n := (← hexValue? a) * 4096 + (← hexValue? b) * 256 + (← hexValue? c) * 16 + (← hexValue? d)
    return (n, rest)
  | _ => none

/-- The character of a code point, if it is one. -/
def scalar? (n : Nat) : Option Char :=
  if n.isValidChar then some (Char.ofNat n) else none

/-- The code unit of an escape that stands in front. -/
def unitEscape? : List Char → Option (Nat × List Char)
  | '\\' :: 'u' :: cs => hex4? cs
  | _ => none

/-- A character given by its code units after the escape mark.  A code unit that makes no character
is passed over. -/
def unicodeEscape? (cs : List Char) : Option (Option Char × List Char) := do
  let (n, rest) ← hex4? cs
  if 0xD800 ≤ n ∧ n < 0xDC00 then
    match unitEscape? rest with
    | some (low, after) =>
      if 0xDC00 ≤ low ∧ low < 0xE000 then
        return (scalar? (0x10000 + (n - 0xD800) * 0x400 + (low - 0xDC00)), after)
      else return (none, rest)
    | none => return (none, rest)
  else return (scalar? n, rest)

/-- The character that a letter after the escape mark stands for. -/
def shortEscape? : Char → Option Char
  | '"' => some '"'
  | '\\' => some '\\'
  | '/' => some '/'
  | 'b' => some '\x08'
  | 'f' => some '\x0c'
  | 'n' => some '\n'
  | 'r' => some '\r'
  | 't' => some '\t'
  | _ => none

/-- Reads the characters of a string up to its closing quote; `read` holds those before, last one
first.  A part that makes no character is `none`. -/
def stringBody? : Nat → List (Option Char) → List Char → Option (Option String × List Char)
  | 0, _, _ => none
  | fuel + 1, read, cs =>
    match cs with
    | '"' :: rest => some ((read.reverse.mapM id).map String.ofList, rest)
    | '\\' :: 'u' :: rest =>
      match unicodeEscape? rest with
      | some (c, rest) => stringBody? fuel (c :: read) rest
      | none => none
    | '\\' :: e :: rest =>
      match shortEscape? e with
      | some c => stringBody? fuel (some c :: read) rest
      | none => none
    | c :: rest =>
      if c.toNat < 0x20 ∨ c = '\\' then none else stringBody? fuel (some c :: read) rest
    | [] => none

/-- The digits in front and the rest. -/
def digitRun (cs : List Char) : List Char × List Char :=
  (cs.takeWhile Char.isDigit, cs.dropWhile Char.isDigit)

/-- The longest run of leading digits whose value fits 64 bits: its value and its length. -/
def leadingDigits (ds : List Char) (n count : Nat) : Nat × Nat :=
  match ds with
  | [] => (n, count)
  | d :: ds =>
    if 10 * n + digitValue d < power 2 64 then leadingDigits ds (10 * n + digitValue d) (count + 1)
    else (n, count)

/-- A binary number from its digits before and after the point and its exponent.  Only the leading
digits that fit 64 bits count. -/
def realNumber (negative : Bool) (whole fraction : List Char) (exponent : Int) : Document :=
  let (n, used) := leadingDigits whole 0 0
  let (n, usedFraction) :=
    if used = whole.length then leadingDigits fraction n 0
    else (n, 0)
  let e := exponent + (whole.length - used : Nat) - usedFraction
  match Binary64.ofSignificand? negative n e with
  | some x => .real x
  | none => .unrepresentable

/-- An integer from its digits, or a binary number if it is out of range. -/
def wholeNumber (negative : Bool) (whole : List Char) : Document :=
  let n := digitsValue whole
  if negative then
    if n = 0 ∨ power 2 63 < n then realNumber negative whole [] 0 else .integer (-(n : Int))
  else if n < power 2 64 then .integer n
  else realNumber negative whole [] 0

/-- Reads the exponent of a number after its mark. -/
def exponent? (cs : List Char) : Option (Int × List Char) :=
  let (negative, cs) := match cs with
    | '-' :: rest => (true, rest)
    | '+' :: rest => (false, rest)
    | _ => (false, cs)
  match digitRun cs with
  | ([], _) => none
  | (ds, rest) =>
    let n : Int := digitsValue ds
    some (if negative then -n else n, rest)

/-- Reads a number. -/
def number? (cs : List Char) : Option (Document × List Char) := do
  let (negative, cs) := match cs with
    | '-' :: rest => (true, rest)
    | _ => (false, cs)
  let (whole, rest) ← match cs with
    | '0' :: rest => some (['0'], rest)
    | _ => match digitRun cs with
      | ([], _) => none
      | run => some run
  if whole = ['0'] ∧ (rest.head?.map Char.isDigit).getD false then none
  let (fraction, rest) ← match rest with
    | '.' :: rest => match digitRun rest with
      | ([], _) => none
      | (ds, rest) => some (some ds, rest)
    | _ => some (none, rest)
  let (exponent, rest) ← match rest with
    | 'e' :: rest => (exponent? rest).map fun (e, rest) => (some e, rest)
    | 'E' :: rest => (exponent? rest).map fun (e, rest) => (some e, rest)
    | _ => some (none, rest)
  match fraction, exponent with
  | none, none => return (wholeNumber negative whole, rest)
  | _, _ => return (realNumber negative whole (fraction.getD []) (exponent.getD 0), rest)

/-- The rest of a text after a fixed word. -/
def word? : List Char → List Char → Option (List Char)
  | [], cs => some cs
  | w :: ws, c :: cs => if w = c then word? ws cs else none
  | _ :: _, [] => none

/-! ## Reading: documents -/

/-- A text, if it has only characters. -/
def textDocument : Option String → Document
  | some s => .text s
  | none => .unrepresentable

/-- A record, if its names have only characters. -/
def recordDocument (ms : List (Option String × Document)) : Document :=
  match ms.mapM fun m => m.1.map fun name => (name, m.2) with
  | some ms => .record ms
  | none => .unrepresentable

/-- A document with parts, if so much nesting is still allowed. -/
def nested (depth : Nat) (d : Document) : Document :=
  if depth = 0 then .unrepresentable else d

mutual

/-- Reads a document.  `fuel` bounds the work, and `depth` is the nesting that is still allowed. -/
def value? : Nat → Nat → List Char → Option (Document × List Char)
  | 0, _, _ => none
  | fuel + 1, depth, cs =>
    match skipSpace cs with
    | '"' :: rest =>
      (stringBody? (rest.length + 1) [] rest).map fun (s, rest) => (textDocument s, rest)
    | '[' :: rest =>
      match skipSpace rest with
      | ']' :: rest => some (nested depth (.list []), rest)
      | rest =>
        (items? fuel (depth - 1) rest).map fun (ds, rest) => (nested depth (.list ds), rest)
    | '\x7b' :: rest =>
      match skipSpace rest with
      | '\x7d' :: rest => some (nested depth (.record []), rest)
      | rest =>
        (members? fuel (depth - 1) rest).map fun (ms, rest) =>
          (nested depth (recordDocument ms), rest)
    | 't' :: rest => (word? "rue".toList rest).map fun rest => (.bool true, rest)
    | 'f' :: rest => (word? "alse".toList rest).map fun rest => (.bool false, rest)
    | 'n' :: rest => (word? "ull".toList rest).map fun rest => (.null, rest)
    | cs => number? cs

/-- Reads the items of a list up to its closing bracket. -/
def items? : Nat → Nat → List Char → Option (List Document × List Char)
  | 0, _, _ => none
  | fuel + 1, depth, cs =>
    match value? fuel depth cs with
    | none => none
    | some (d, rest) =>
      match skipSpace rest with
      | ']' :: rest => some ([d], rest)
      | ',' :: rest => (items? fuel depth rest).map fun (ds, rest) => (d :: ds, rest)
      | _ => none

/-- Reads the members of a record up to its closing brace. -/
def members? : Nat → Nat → List Char → Option (List (Option String × Document) × List Char)
  | 0, _, _ => none
  | fuel + 1, depth, cs =>
    match skipSpace cs with
    | '"' :: rest =>
      match stringBody? (rest.length + 1) [] rest with
      | none => none
      | some (name, rest) =>
        match skipSpace rest with
        | ':' :: rest =>
          match value? fuel depth rest with
          | none => none
          | some (d, rest) =>
            match skipSpace rest with
            | '\x7d' :: rest => some ([(name, d)], rest)
            | ',' :: rest => (members? fuel depth rest).map fun (ms, rest) => ((name, d) :: ms, rest)
            | _ => none
        | _ => none
    | _ => none

end

/-- The deepest nesting of lists and records that can be held. -/
def maxDepth : Nat := 127

/-- Reads a text that is one document. -/
def parse? (s : String) : Option Document :=
  let cs := s.toList
  match value? (2 * cs.length + 2) maxDepth cs with
  | some (d, rest) => if (skipSpace rest).isEmpty then some d else none
  | none => none

/-! ## Writing -/

/-- The lower-case hexadecimal digits of a number. -/
def hexDigits (n : Nat) : List Char :=
  Nat.toDigits 16 n

/-- One character of a string. -/
def escapeChar (c : Char) : List Char :=
  match c with
  | '"' => ['\\', '"']
  | '\\' => ['\\', '\\']
  | '\n' => ['\\', 'n']
  | '\r' => ['\\', 'r']
  | '\t' => ['\\', 't']
  | '\x08' => ['\\', 'b']
  | '\x0c' => ['\\', 'f']
  | c =>
    if c.toNat < 0x20 then
      let ds := hexDigits c.toNat
      ['\\', 'u'] ++ List.replicate (4 - ds.length) '0' ++ ds
    else [c]

/-- A text in quotes. -/
def quote (s : String) : String :=
  String.ofList ('"' :: s.toList.flatMap escapeChar ++ ['"'])

/-- A binary number as text. -/
def realText (x : Binary64) : String :=
  match x.plainText? with
  | some cs => String.ofList cs
  | none => "null"

mutual

/-- A document on one line. -/
def render : Document → String
  | .null => "null"
  | .bool true => "true"
  | .bool false => "false"
  | .integer n => integerText n
  | .real x => realText x
  | .text s => quote s
  | .stamp s => quote s
  | .unrepresentable => "null"
  | .list ds => "[" ++ ",".intercalate (renderItems ds) ++ "]"
  | .record ms => "\x7b" ++ ",".intercalate (renderMembers ms) ++ "\x7d"

def renderItems : List Document → List String
  | [] => []
  | d :: ds => render d :: renderItems ds

def renderMembers : List (String × Document) → List String
  | [] => []
  | (name, d) :: ms => (quote name ++ ":" ++ render d) :: renderMembers ms

end

/-- Two blanks for every level. -/
def indentation (level : Nat) : String :=
  String.ofList (List.replicate (2 * level) ' ')

/-- Lines in a pair of brackets, each one level deeper than the brackets. -/
def block (opening closing : String) (level : Nat) (lines : List String) : String :=
  if lines.isEmpty then opening ++ closing
  else
    opening ++ "\n" ++ ",\n".intercalate (lines.map fun l => indentation (level + 1) ++ l) ++ "\n"
      ++ indentation level ++ closing

mutual

/-- A document over several lines, for people to read. -/
def renderIndented (level : Nat) : Document → String
  | .list ds => block "[" "]" level (indentedItems (level + 1) ds)
  | .record ms => block "\x7b" "\x7d" level (indentedMembers (level + 1) ms)
  | d => render d

def indentedItems (level : Nat) : List Document → List String
  | [] => []
  | d :: ds => renderIndented level d :: indentedItems level ds

def indentedMembers (level : Nat) : List (String × Document) → List String
  | [] => []
  | (name, d) :: ms => (quote name ++ ": " ++ renderIndented level d) :: indentedMembers level ms

end

end Json

end EntryGate
