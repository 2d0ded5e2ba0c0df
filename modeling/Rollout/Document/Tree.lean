import Rollout.Value
/-!
# Trees of a document

Whatever format a document is written in, it is a tree of words, lists and records.  What a word can
be read as is up to its format, and is worked out once, when the tree is made; what a record has to
hold is up to its reader.  A reader goes down only so many levels, and it passes over what it does
not know without a look inside.
-/

namespace Rollout

/-- The formats that documents are written in. -/
inductive Format where
  | yaml
  | json
deriving Repr, DecidableEq

namespace Format

/-- How many lists and records a reader goes down. -/
def depth : Format → Nat
  | .yaml => 128
  | .json => 127

/-- Whether a list can stand for a record, its members for the fields in the order in which they are
declared, and a record of one field without a value for the choice of that name. -/
def byPlace : Format → Bool
  | .yaml => false
  | .json => true

end Format

/-- What a leaf of a document can be read as. -/
structure Word where
  /-- As a text. -/
  text : Option String
  /-- As one of several names. -/
  choice : Option String
  truth : Option Bool
  number : Option Int
  /-- As a number without a sign. -/
  count : Option Nat
  /-- As a value of whatever type it has. -/
  scalar : Option Value
  /-- Whether it stands for a value that is not given. -/
  isNull : Bool
  /-- Whether it stands for a list or a record in which there is nothing. -/
  isBlank : Bool

/-- A document of any format. -/
inductive Tree where
  | word (w : Word)
  | list (items : List Tree)
  | record (fields : List (Tree × Tree))

namespace Word

/-- A word that cannot be read as anything. -/
def unreadable : Word := ⟨none, none, none, none, none, none, false, false⟩

end Word

/-- The fields of a record that its reader knows. -/
structure Record where
  fields : List (String × Tree)
  /-- Whether the fields were told by their places and not by their names. -/
  byPlace : Bool

namespace Tree

/-! ## 1. Words -/

/-- What a word is read as. -/
def asWord (read : Word → Option α) : Tree → Option α
  | .word w => read w
  | .list _ | .record _ => none

/-- A text. -/
def text? : Tree → Option String := asWord Word.text

/-- A truth value. -/
def truth? : Tree → Option Bool := asWord Word.truth

/-- A value of whatever type. -/
def scalar? : Tree → Option Value := asWord Word.scalar

/-- A number of 32 bits. -/
def int32? : Tree → Option Int32 := asWord fun w => w.number.bind Numeral.toInt32?

/-- A number of 64 bits. -/
def int64? : Tree → Option Int64 := asWord fun w => w.number.bind Numeral.toInt64?

/-- A number of 64 bits without a sign. -/
def count? : Tree → Option Nat :=
  asWord fun w => w.count.bind fun n => if n ≤ Numeral.maxCount then some n else none

/-- Whether the tree stands for a value that is not given. -/
def isNull : Tree → Bool
  | .word w => w.isNull
  | .list _ | .record _ => false

/-! ## 2. Choices, lists and records

`depth` is how many levels the reader may still go down. -/

/-- One of several names. -/
def choice? (format : Format) (depth : Nat) : Tree → Option String
  | .word w => w.choice
  | .record [(name, content)] =>
    if format.byPlace && 0 < depth && content.isNull then name.text? else none
  | .list _ | .record _ => none

/-- The members of a list. -/
def list? (depth : Nat) (read : Tree → Option α) : Tree → Option (List α)
  | .word w => if w.isBlank then some [] else none
  | .list items => if depth = 0 then none else items.mapM read
  | .record _ => none

/-- The fields of a record whose known names are `names`.  A known name must not occur twice. -/
def record? (format : Format) (depth : Nat) (names : List String) : Tree → Option Record
  | .word w => if w.isBlank then some ⟨[], false⟩ else none
  | .list items =>
    if format.byPlace && 0 < depth && items.length ≤ names.length then
      some ⟨names.zip items, true⟩
    else none
  | .record fields => do
    if depth = 0 then none
    let named ← fields.mapM fun (key, content) => key.text?.map fun name => (name, content)
    let known := named.filter fun field => names.contains field.1
    if (known.map (·.1)).Nodup then some ⟨known, false⟩ else none

end Tree

namespace Record

/-- The content of a field. -/
def get? (r : Record) (name : String) : Option Tree := r.fields.lookup name

/-- A field that has to be there. -/
def required (r : Record) (name : String) (read : Tree → Option α) : Option α :=
  (r.get? name).bind read

/-- A field that can be left out, and then has a default. -/
def defaulted (r : Record) (name : String) (default : α) (read : Tree → Option α) : Option α :=
  match r.get? name with
  | none => some default
  | some content => read content

/-- A field that can be left out or be given without a value.  Where fields are told by their places
it cannot be left out. -/
def optional (r : Record) (name : String) (read : Tree → Option α) : Option (Option α) :=
  match r.get? name with
  | none => if r.byPlace then none else some none
  | some content => if content.isNull then some none else (read content).map some

end Record

end Rollout
