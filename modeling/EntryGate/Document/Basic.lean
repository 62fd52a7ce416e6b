import EntryGate.Binary64

/-!
# Documents

Settings, calendars and reports are exchanged as documents: trees of texts, numbers, flags, lists
and records.  The same type serves every text format; a format says only how a document is spelled.

The members of a record keep their order, and a name may occur more than once; what a repeated name
means is decided where the record is decoded.  The formats differ in a few points of decoding, so
`Format` names them.
-/

namespace EntryGate

/-- A structured value. -/
inductive Document where
  | null
  | bool (value : Bool)
  | integer (value : Int)
  | real (value : Binary64)
  | text (value : String)
  /-- A date, a time of day or both, in a format that has them as values. -/
  | stamp (value : String)
  | list (items : List Document)
  | record (members : List (String × Document))
  /-- A value that is spelled correctly but cannot be held, such as a number that is too large.  It
  may be passed over but not decoded. -/
  | unrepresentable

/-- The formats that documents are written in, as far as decoding depends on them. -/
inductive Format where
  | json
  | toml
deriving DecidableEq, Repr

namespace Document

instance : Inhabited Document := ⟨.null⟩

/-- The member of that name, the first one if there are several. -/
def member? (members : List (String × Document)) (name : String) : Option Document :=
  (members.find? fun m => m.1 == name).map Prod.snd

mutual

/-- Whether the document and all its parts can be held. -/
def isRepresentable : Document → Bool
  | .unrepresentable => false
  | .list ds => allRepresentable ds
  | .record ms => membersRepresentable ms
  | _ => true

def allRepresentable : List Document → Bool
  | [] => true
  | d :: ds => isRepresentable d && allRepresentable ds

def membersRepresentable : List (String × Document) → Bool
  | [] => true
  | (_, d) :: ms => isRepresentable d && membersRepresentable ms

end

/-- The member of that name if the document is a record that has it. -/
def get? (d : Document) (name : String) : Option Document :=
  match d with
  | .record members => member? members name
  | _ => none

end Document

end EntryGate
