import EntryGate.Text.Blank

/-!
# Letter case and symbol keys

Case plays no part when symbols and event tags are compared.  Only the letters of ASCII are folded,
so `é` and `É` stay apart.  A symbol's *key* is its trimmed, upper-case spelling; calendars,
quantity tables and ledgers are organised by key.
-/

namespace EntryGate.Text

/-- The text with ASCII letters in upper case. -/
def upper (s : String) : String :=
  String.ofList (s.toList.map Char.toUpper)

/-- The text with ASCII letters in lower case. -/
def lower (s : String) : String :=
  String.ofList (s.toList.map Char.toLower)

/-- The spelling under which an instrument is filed. -/
def symbolKey (symbol : String) : String :=
  upper (trim symbol)

end EntryGate.Text
