import EntryGate.Document.Toml.Lexeme

/-!
# TOML text

How strings, keys, arrays and tables are written.  A string takes the plainest form that it can be
written in: double quotes, single quotes, either of them over several lines, and only then double
quotes with escapes.

* `Toml.stringText` and `Toml.keyText` write strings and keys;
* `Toml.arrayText` writes an array of strings, `Toml.sectionText` a table.
-/

namespace EntryGate

open Text

namespace Toml

/-! ## Strings -/

/-- The longest run of a character. -/
def longestRun (c : Char) (cs : List Char) : Nat :=
  (cs.foldl (fun (best, run) d => if d = c then (max best (run + 1), run + 1) else (best, 0))
    (0, 0)).1

/-- Whether there are control characters that only an escape can express. -/
def needsEscapes (cs : List Char) : Bool :=
  cs.any fun c => isControl c && c != '\n'

/-- Upper-case hexadecimal digits up to a width. -/
def paddedHex (width n : Nat) : List Char :=
  let ds := (Nat.toDigits 16 n).map Char.toUpper
  List.replicate (width - ds.length) '0' ++ ds

/-- A character other than a quote, inside double quotes. -/
def basicChar (multiline : Bool) (c : Char) : List Char :=
  match c with
  | '\x08' => ['\\', 'b']
  | '\t' => ['\\', 't']
  | '\n' => if multiline then ['\n'] else ['\\', 'n']
  | '\x0c' => ['\\', 'f']
  | '\r' => ['\\', 'r']
  | '\\' => ['\\', '\\']
  | c => if isControl c then ['\\', 'u'] ++ paddedHex 4 c.toNat else [c]

/-- A text inside double quotes, after `run` quotes that stand as they are.  Over several lines two
quotes may stand side by side, and the next one is escaped; on one line every quote is. -/
def basicBody (multiline : Bool) (run : Nat) : List Char → List Char
  | [] => []
  | c :: cs =>
    if c = '"' then
      if run < (if multiline then 2 else 0) then c :: basicBody multiline (run + 1) cs
      else ['\\', c] ++ basicBody multiline 0 cs
    else basicChar multiline c ++ basicBody multiline 0 cs

/-- A text between three quotes, on lines of its own if it has several. -/
def multilineText (quote : Char) (cs body : List Char) : List Char :=
  let marks := List.replicate 3 quote
  marks ++ (if cs.contains '\n' then ['\n'] else []) ++ body ++ marks

/-- A string in double quotes. -/
def escapedText (cs : List Char) : List Char :=
  '"' :: basicBody false 0 cs ++ ['"']

/-- A string in double quotes without escapes other than the tab's, if it can be written so. -/
def plainText? (cs : List Char) : Option (List Char) :=
  if needsEscapes cs || cs.contains '\n' || cs.contains '"' || cs.contains '\\' then none
  else some (escapedText cs)

/-- A string in single quotes, if it can be written so. -/
def literalText? (cs : List Char) : Option (List Char) :=
  if needsEscapes cs || cs.contains '\n' || cs.contains '\'' then none
  else some ('\'' :: cs ++ ['\''])

/-- A string in the plainest form that fits. -/
def stringChars (cs : List Char) : List Char :=
  match plainText? cs with
  | some text => text
  | none =>
    match literalText? cs with
    | some text => text
    | none =>
      if !needsEscapes cs && !cs.contains '\\' && decide (longestRun '"' cs ≤ 2) then
        multilineText '"' cs (basicBody true 0 cs)
      else if !needsEscapes cs && decide (longestRun '\'' cs ≤ 2) then multilineText '\'' cs cs
      else if cs.contains '\n' then multilineText '"' cs (basicBody true 0 cs)
      else escapedText cs

def stringText (s : String) : String :=
  String.ofList (stringChars s.toList)

/-- A key, without quotes if it has only letters, digits, dashes and underscores. -/
def keyText (s : String) : String :=
  let cs := s.toList
  if !cs.isEmpty && cs.all isBareKeyChar then s
  else
    String.ofList
      (match plainText? cs with
        | some text => text
        | none => (literalText? cs).getD (escapedText cs))

/-! ## Lines -/

/-- An array of strings, one to a line if there are several. -/
def arrayText : List String → String
  | [] => "[]"
  | [s] => "[" ++ stringText s ++ "]"
  | items => "[\n" ++ String.join (items.map fun s => "    " ++ stringText s ++ ",\n") ++ "]"

def flagText (b : Bool) : String :=
  if b then "true" else "false"

/-- One line of a table. -/
def lineText (key value : String) : String :=
  keyText key ++ " = " ++ value ++ "\n"

/-- The lines of a table. -/
def linesText (lines : List (String × String)) : String :=
  String.join (lines.map fun l => lineText l.1 l.2)

/-- A table with its header, after an empty line. -/
def sectionText (header : String) (lines : List (String × String)) : String :=
  "\n[" ++ header ++ "]\n" ++ linesText lines

end Toml

end EntryGate
