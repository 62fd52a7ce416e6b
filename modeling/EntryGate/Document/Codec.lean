import EntryGate.Decimal.Text
import EntryGate.Document.Basic

/-!
# Encoding and decoding

Every type of the library that is exchanged has an encoding as a document and a decoding, which
accepts more than the encoding produces: names may be missing where there is a default, unknown
names are ignored, and a record may be given as a list of its members in order.  How an alternative
may be given as a record, and whether a list may have surplus items, depends on the format.

* `Codec` pairs the two directions;
* `Members` is a record in the course of being decoded, with one function for each way in which a
  member may be absent.
-/

namespace EntryGate

/-- A type with an encoding as a document, and a decoding that may refuse. -/
class Codec (α : Type) where
  encode : α → Document
  decode : Format → Document → Option α

export Codec (encode decode)

/-! ## Plain values -/

/-- The greatest count: quantities, limits and streaks stay within 32 bits. -/
def Count.max : Nat := 4294967295

namespace Document

/-- A natural number up to a bound. -/
def natUpTo? (bound : Nat) : Document → Option Nat
  | .integer n => if 0 ≤ n ∧ n.natAbs ≤ bound then some n.natAbs else none
  | _ => none

/-- A count of contracts, losses or ticks. -/
def count? (d : Document) : Option Nat :=
  d.natUpTo? Count.max

/-- A size of a buffer. -/
def size? (d : Document) : Option Nat :=
  d.natUpTo? 18446744073709551615

/-- An integer of 64 bits. -/
def int64? : Document → Option Int
  | .integer n => if -9223372036854775808 ≤ n ∧ n ≤ 9223372036854775807 then some n else none
  | _ => none

/-- Whether a document stands for nothing at all: a null where the format has one, and otherwise an
empty list or record. -/
def isNothing : Format → Document → Bool
  | .json, .null => true
  | .toml, .list [] => true
  | .toml, .record [] => true
  | _, _ => false

/-- The name of an alternative: a text, or a record whose only member has that name and holds
nothing. -/
def variant? (format : Format) : Document → Option String
  | .text s => some s
  | .record [(name, d)] => if isNothing format d then some name else none
  | _ => none

/-- All the items of a list, decoded one by one. -/
def listOf? {α : Type} (item : Document → Option α) : Document → Option (List α)
  | .list ds => ds.mapM item
  | _ => none

/-- A value that may be absent. -/
def optionOf? {α : Type} (value : Document → Option α) : Document → Option (Option α)
  | .null => some none
  | d => (value d).map some

/-- A count as a document. -/
def ofNat (n : Nat) : Document :=
  .integer n

/-- A value that may be absent, as a document. -/
def ofOption {α : Type} (value : α → Document) : Option α → Document
  | none => .null
  | some a => value a

end Document

instance : Codec Bool where
  encode := .bool
  decode
    | _, .bool b => some b
    | _, _ => none

instance : Codec String where
  encode := .text
  decode
    | _, .text s => some s
    | _, _ => none

instance {α : Type} [Codec α] : Codec (List α) where
  encode xs := .list (xs.map encode)
  decode format := Document.listOf? (decode format)

instance {α : Type} [Codec α] : Codec (Option α) where
  encode := Document.ofOption encode
  decode format := Document.optionOf? (decode format)

/-- A decimal is written as a text, which keeps its scale, and read from a text or a number. -/
instance : Codec Decimal where
  encode a := .text a.render
  decode
    | _, .text s => Decimal.parse? s
    | _, .integer n => Decimal.ofParts? n 0
    | _, .real x => x.plainText?.bind Decimal.parsePlain?
    | _, _ => none

/-! ## Records -/

/-- The members of a record that is being decoded. -/
structure Members where
  /-- Whether the record was given as a list of its members. -/
  positional : Bool
  entries : List (String × Document)

namespace Members

/-- The members of a document that stands for a record with the given names.  A name of the record
may not be repeated, and outside TOML a list may not be longer than the record. -/
def ofDocument? (format : Format) (names : List String) : Document → Option Members
  | .record ms =>
    if names.all fun name => decide (ms.countP (fun m => m.1 == name) ≤ 1) then some ⟨false, ms⟩
    else none
  | .list ds =>
    if ds.length ≤ names.length ∨ format = .toml then some ⟨true, names.zip ds⟩ else none
  | .stamp _ => some ⟨false, []⟩
  | _ => none

/-- A member that has to be there. -/
def required? {α : Type} (m : Members) (name : String) (value : Document → Option α) : Option α :=
  (Document.member? m.entries name).bind value

/-- A member with a default. -/
def defaulted? {α : Type} (m : Members) (name : String) (value : Document → Option α)
    (default : α) : Option α :=
  match Document.member? m.entries name with
  | some d => value d
  | none => some default

/-- A member that may be left out of a record, though not of a list. -/
def optional? {α : Type} (m : Members) (name : String) (value : Document → Option α) :
    Option (Option α) :=
  match Document.member? m.entries name with
  | some d => Document.optionOf? value d
  | none => if m.positional then none else some none

end Members

end EntryGate
