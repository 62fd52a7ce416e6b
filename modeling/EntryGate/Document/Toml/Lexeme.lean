import EntryGate.Document.Json
import EntryGate.Time.Instant

/-!
# TOML: strings, keys and scalars

The parts of a TOML text that stand on their own: white space and comments, the four forms of
strings, keys, and the scalars (flags, integers, binary numbers, dates and times).
-/

namespace EntryGate

open Text

namespace Toml

/-! ## White space and line ends -/

def isSpace (c : Char) : Bool := c == ' ' || c == '\t'

def skipSpace (cs : List Char) : List Char := cs.dropWhile isSpace

/-- Control characters may stand nowhere; the tab is not counted among them. -/
def isControl (c : Char) : Bool :=
  (c.toNat < 0x20 && c != '\t') || c.toNat == 0x7F

/-- The rest after a line end. -/
def newline? : List Char → Option (List Char)
  | '\n' :: rest => some rest
  | '\r' :: '\n' :: rest => some rest
  | _ => none

/-- The rest after a comment, if there is one. -/
def skipComment (cs : List Char) : List Char :=
  match cs with
  | '#' :: rest => rest.dropWhile fun c => !isControl c
  | _ => cs

/-- The rest after blanks, a comment and the end of the line or of the text. -/
def endOfLine? (cs : List Char) : Option (List Char) :=
  match skipComment (skipSpace cs) with
  | [] => some []
  | rest => newline? rest

/-- The rest after blanks, comments and line ends, in any number. -/
def skipLines : Nat → List Char → List Char
  | 0, cs => cs
  | fuel + 1, cs =>
    let rest := skipComment (skipSpace cs)
    match newline? rest with
    | some rest => skipLines fuel rest
    | none => rest

/-! ## Strings -/

/-- A character given by the hexadecimal digits of its code point. -/
def codePoint? (width : Nat) (cs : List Char) : Option (Char × List Char) := do
  let ds := cs.take width
  if ds.length = width then
    let values ← ds.mapM Json.hexValue?
    let c ← Json.scalar? (values.foldl (fun n v => 16 * n + v) 0)
    return (c, cs.drop width)
  else none

/-- The character that an escape stands for, after its backslash. -/
def escape? : List Char → Option (Char × List Char)
  | 'b' :: rest => some ('\x08', rest)
  | 't' :: rest => some ('\t', rest)
  | 'n' :: rest => some ('\n', rest)
  | 'f' :: rest => some ('\x0c', rest)
  | 'r' :: rest => some ('\r', rest)
  | '"' :: rest => some ('"', rest)
  | '\\' :: rest => some ('\\', rest)
  | 'u' :: rest => codePoint? 4 rest
  | 'U' :: rest => codePoint? 8 rest
  | _ => none

/-- The characters of a basic string up to its closing quote. -/
def basicBody? : Nat → List Char → List Char → Option (String × List Char)
  | 0, _, _ => none
  | fuel + 1, read, cs =>
    match cs with
    | '"' :: rest => some (String.ofList read.reverse, rest)
    | '\\' :: rest =>
      match escape? rest with
      | some (c, rest) => basicBody? fuel (c :: read) rest
      | none => none
    | c :: rest => if isControl c then none else basicBody? fuel (c :: read) rest
    | [] => none

/-- The characters of a literal string up to its closing quote. -/
def literalBody? (cs : List Char) : Option (String × List Char) :=
  let body := cs.takeWhile fun c => c != '\'' && !isControl c
  match cs.drop body.length with
  | '\'' :: rest => some (String.ofList body, rest)
  | _ => none

/-- The rest after blanks and line ends, in any number. -/
def skipBlankLines : List Char → List Char
  | '\r' :: '\n' :: rest => skipBlankLines rest
  | c :: rest => if isSpace c || c == '\n' then skipBlankLines rest else c :: rest
  | [] => []

/-- The rest after a backslash at the end of a line: blanks and line ends do not count. -/
def foldedLine? (cs : List Char) : Option (List Char) :=
  (newline? (skipSpace cs)).map skipBlankLines

/-- The characters of a string over several lines, which ends with three quotes.  Up to two more
quotes in front of them belong to the string.  `escapes` tells a basic string from a literal one. -/
def multilineBody? (quote : Char) (escapes : Bool) :
    Nat → List Char → List Char → Option (String × List Char)
  | 0, _, _ => none
  | fuel + 1, read, cs =>
    match newline? cs with
    | some rest => multilineBody? quote escapes fuel ('\n' :: read) rest
    | none =>
      match cs with
      | [] => none
      | c :: rest =>
        if c = quote then
          let run := (cs.takeWhile fun c => c == quote).length
          if 3 ≤ run then
            let kept := min run 5 - 3
            some (String.ofList (read.reverse ++ List.replicate kept quote), cs.drop (min run 5))
          else multilineBody? quote escapes fuel (c :: read) rest
        else if c = '\\' ∧ escapes then
          match foldedLine? rest with
          | some rest => multilineBody? quote escapes fuel read rest
          | none =>
            match escape? rest with
            | some (c, rest) => multilineBody? quote escapes fuel (c :: read) rest
            | none => none
        else if isControl c then none
        else multilineBody? quote escapes fuel (c :: read) rest

/-- The rest after the line end that may directly follow three opening quotes. -/
def skipFirstNewline (cs : List Char) : List Char :=
  (newline? cs).getD cs

/-- A string on one line. -/
def lineString? : List Char → Option (String × List Char)
  | '"' :: rest => basicBody? (rest.length + 1) [] rest
  | '\'' :: rest => literalBody? rest
  | _ => none

/-- A string in any of its forms. -/
def string? : List Char → Option (String × List Char)
  | '"' :: '"' :: '"' :: rest =>
    let rest := skipFirstNewline rest
    multilineBody? '"' true (rest.length + 1) [] rest
  | '\'' :: '\'' :: '\'' :: rest =>
    let rest := skipFirstNewline rest
    multilineBody? '\'' false (rest.length + 1) [] rest
  | cs => lineString? cs

/-! ## Keys -/

def isBareKeyChar (c : Char) : Bool :=
  c.isAlphanum || c == '_' || c == '-'

/-- One part of a key. -/
def simpleKey? (cs : List Char) : Option (String × List Char) :=
  let bare := cs.takeWhile isBareKeyChar
  if bare.isEmpty then lineString? cs else some (String.ofList bare, cs.drop bare.length)

/-- A key: parts with dots between them. -/
def key? : Nat → List Char → Option (List String × List Char)
  | 0, _ => none
  | fuel + 1, cs => do
    let (part, rest) ← simpleKey? (skipSpace cs)
    match skipSpace rest with
    | '.' :: more =>
      let (parts, rest) ← key? fuel more
      return (part :: parts, rest)
    | _ => return ([part], rest)

/-- The nesting that a text may not reach, neither by values in each other nor by the parts of one
key. -/
def nestingLimit : Nat := 80

/-- A key with fewer parts than the limit. -/
def boundedKey? (cs : List Char) : Option (List String × List Char) := do
  let (path, rest) ← key? (cs.length + 1) cs
  if path.length < nestingLimit then some (path, rest) else none

/-! ## Numbers -/

/-- A run of digits in which single underscores may stand between digits, without them. -/
def grouped? (isDigit : Char → Bool) : List Char → Option (List Char)
  | [] => none
  | [c] => if isDigit c then some [c] else none
  | c :: '_' :: rest => if isDigit c then (grouped? isDigit rest).map (c :: ·) else none
  | c :: rest => if isDigit c then (grouped? isDigit rest).map (c :: ·) else none

/-- The sign of a number and the rest. -/
def splitSign : List Char → Bool × List Char
  | '-' :: rest => (true, rest)
  | '+' :: rest => (false, rest)
  | cs => (false, cs)

/-- Digits without a leading zero, unless that is all. -/
def wholeDigits? (cs : List Char) : Option (List Char) := do
  let ds ← grouped? Char.isDigit cs
  if 1 < ds.length ∧ ds.head? = some '0' then none else return ds

/-- The value of digits in a base. -/
def valueIn (base : Nat) (ds : List Char) : Nat :=
  ds.foldl (fun n c => base * n + (Json.hexValue? c).getD 0) 0

/-- The greatest integer; with its sign, integers have 64 bits. -/
def maxInteger : Nat := 9223372036854775807

/-- An integer that fits 64 bits. -/
def fitting? (n : Int) : Option Document :=
  if -(maxInteger : Int) - 1 ≤ n ∧ n ≤ maxInteger then some (.integer n) else none

/-- An integer in any of its notations. -/
def integer? (cs : List Char) : Option Document :=
  let inBase (base : Nat) (ds : List Char) : Option Document := do
    let ds ← grouped? (fun c => decide (((Json.hexValue? c).getD base) < base)) ds
    fitting? (valueIn base ds)
  match cs with
  | '0' :: 'x' :: ds => inBase 16 ds
  | '0' :: 'o' :: ds => inBase 8 ds
  | '0' :: 'b' :: ds => inBase 2 ds
  | _ => do
    let (negative, cs) := splitSign cs
    let ds ← wholeDigits? cs
    let n : Int := digitsValue ds
    fitting? (if negative then -n else n)

/-- The binary number nearest to `n * 10 ^ e`. -/
def nearestPower (negative : Bool) (n : Nat) (e : Int) : Binary64 :=
  let magnitude := ((digits n).length : Int) + e
  if n = 0 ∨ magnitude < -330 then .finite negative 0 0
  else if 310 < magnitude then .infinite negative
  else
    let (num, den) := Binary64.scaled n 10 e
    Binary64.nearest negative num den

/-- A number with a fraction or an exponent, or an exceptional one.  A positive number may not lie
beyond the finite ones; a negative one that does is infinite. -/
def float? (cs : List Char) : Option Document := do
  let (negative, body) := splitSign cs
  if body = "inf".toList then return .real (.infinite negative)
  if body = "nan".toList then return .real .notANumber
  let isPart := fun c : Char => c.isDigit || c == '_'
  let whole ← wholeDigits? (body.takeWhile isPart)
  let rest := body.dropWhile isPart
  let (fraction, rest) ← match rest with
    | '.' :: rest => do
      let ds ← grouped? Char.isDigit (rest.takeWhile isPart)
      pure (ds, rest.dropWhile isPart)
    | _ => pure ([], rest)
  let exponent : Int ← match rest with
    | [] => if fraction.isEmpty then none else pure 0
    | e :: rest =>
      if e = 'e' ∨ e = 'E' then do
        let (negative, ds) := splitSign rest
        let ds ← grouped? Char.isDigit ds
        let n : Int := digitsValue ds
        pure (if negative then -n else n)
      else none
  let x := nearestPower negative (digitsValue (whole ++ fraction)) (exponent - fraction.length)
  if x = .infinite false then none else return .real x

/-! ## Dates and times -/

/-- A full date with exactly two digits in month and day. -/
def isDate (cs : List Char) : Bool :=
  (do
    let (year, cs) ← fixedNumber? 4 cs
    let cs ← char? '-' cs
    let (month, cs) ← fixedNumber? 2 cs
    let cs ← char? '-' cs
    let (day, cs) ← fixedNumber? 2 cs
    let _ ← Date.ofYMD? year month day
    if cs.isEmpty then some () else none).isSome

/-- The rest after a time of day. -/
def time? (cs : List Char) : Option (List Char) := do
  let (hour, cs) ← fixedNumber? 2 cs
  let cs ← char? ':' cs
  let (minute, cs) ← fixedNumber? 2 cs
  let cs ← char? ':' cs
  let (second, cs) ← fixedNumber? 2 cs
  let (nanos, cs) ← fraction? cs
  let _ ← TimeOfDay.ofFields? hour minute second nanos
  return cs

/-- A time of day, and after a date also a zone. -/
def isTime (zoned : Bool) (cs : List Char) : Bool :=
  match time? cs with
  | none => false
  | some [] => true
  | some rest =>
    zoned && match Instant.scanOffset? rest with
      | some (_, []) => true
      | _ => false

/-- A date, a time, or a date and a time with one of the marks between them. -/
def isStamp (cs : List Char) : Bool :=
  isDate cs || isTime false cs
    || (isDate (cs.take 10) && match cs.drop 10 with
      | mark :: time => (mark == 'T' || mark == 't' || mark == ' ') && isTime true time
      | [] => false)

/-! ## Scalars -/

def isScalarChar (c : Char) : Bool :=
  c.isAlphanum || c == '_' || c == '-' || c == '+' || c == '.' || c == ':'

/-- The characters of a scalar and the rest.  A date may have a blank between it and its time. -/
def scalarRun (cs : List Char) : List Char × List Char :=
  let run := cs.takeWhile isScalarChar
  let rest := cs.drop run.length
  match rest with
  | ' ' :: a :: more =>
    if isDate run && a.isDigit then
      let time := (a :: more).takeWhile isScalarChar
      if isTime true time then (run ++ ' ' :: time, (a :: more).drop time.length) else (run, rest)
    else (run, rest)
  | _ => (run, rest)

/-- A value that is neither a string nor made of other values. -/
def scalar? (cs : List Char) : Option (Document × List Char) :=
  let (run, rest) := scalarRun cs
  let value : Option Document :=
    if run = "true".toList then some (.bool true)
    else if run = "false".toList then some (.bool false)
    else if isStamp run then some (.stamp (String.ofList run))
    else float? run <|> integer? run
  value.map fun d => (d, rest)

end Toml

end EntryGate
