import Rollout.Decimal.Read
import Rollout.Document.Tree
import Rollout.Document.Yaml.Scalar
/-!
# Words of a YAML text

What a scalar can be read as depends on its style, its tag and its text.  A plain one without a tag
is a truth value, a number or no value if it is spelled like one; every scalar is a text if a text
is asked for.  A tag that starts with an exclamation mark names one of several choices; some of the
other tags say what a scalar is.
-/

namespace Rollout.Yaml

/-- The tags that say what a scalar is. -/
def coreTag (name : String) : String := "tag:yaml.org,2002:" ++ name

/-- Whether a text spells no value. -/
def spellsNull (text : String) : Bool := ["null", "Null", "NULL", "~"].contains text

/-- The truth value that a text spells. -/
def spelledTruth? (text : String) : Option Bool :=
  if ["true", "True", "TRUE"].contains text then some true
  else if ["false", "False", "FALSE"].contains text then some false
  else none

/-! ## 1. Numbers -/

/-- The text without a plus sign at its start. -/
def dropPlus : List Char → List Char
  | '+' :: cs => cs
  | cs => cs

/-- Whether digits start with a zero that does not count: they spell no number. -/
def hasIdleZero (cs : List Char) : Bool :=
  match (Decimal.takeSign cs).2 with
  | '0' :: c :: rest => (c :: rest).all Numeral.isDigit
  | _ => false

/-- The number of digits in the base that is named in front of them. -/
def basedNatural? : List Char → Option Nat
  | '0' :: 'x' :: cs => Numeral.natural? 16 cs
  | '0' :: 'o' :: cs => Numeral.natural? 8 cs
  | '0' :: 'b' :: cs => Numeral.natural? 2 cs
  | _ => none

/-- The number without a minus sign that a text spells. -/
def unsigned? (cs : List Char) : Option Nat :=
  match basedNatural? (dropPlus cs) with
  | some n => some n
  | none => if hasIdleZero cs then none else Numeral.natural? 10 (dropPlus cs)

/-- The number with a minus sign that a text spells. -/
def negative? : List Char → Option Int
  | '-' :: cs =>
    match basedNatural? cs with
    | some n => some (-n)
    | none => if hasIdleZero cs then none else (Numeral.natural? 10 cs).map fun n => -(n : Int)
  | _ => none

/-- The whole number that a text spells. -/
def integer? (text : String) : Option Int :=
  match unsigned? text.toList with
  | some n => some n
  | none => negative? text.toList

/-- The double that a text spells. -/
def float? (text : String) : Option Float :=
  let infinite (negative : Bool) := Decimal.toFloat ⟨negative, 1, 999⟩
  if [".inf", ".Inf", ".INF", "+.inf", "+.Inf", "+.INF"].contains text then some (infinite false)
  else if ["-.inf", "-.Inf", "-.INF"].contains text then some (infinite true)
  else if [".nan", ".NaN", ".NAN"].contains text then some (Float.ofBits 0x7ff8000000000000)
  else (Decimal.readFloat? text.toList).filter Float.isFinite

/-! ## 2. What a text spells -/

/-- What a text spells. -/
inductive Spelled where
  | null
  | value (v : Value)
  /-- A whole number of more than 64 bits. -/
  | tooWide

/-- The whole number that a text spells, as a value: beyond 64 bits with a sign it is a double, and
beyond 64 bits without one it is none. -/
def spelledInteger? (text : String) : Option Spelled :=
  (integer? text).bind fun i =>
    match Numeral.toInt64? i with
    | some n => some (.value (.int n))
    | none =>
      if 0 ≤ i ∧ i ≤ Numeral.maxCount then
        some (.value (.float (Decimal.toFloat ⟨false, i.toNat, 0⟩)))
      else if -(1 <<< 127 : Nat) ≤ i ∧ i < (1 <<< 128 : Nat) then some .tooWide
      else none

/-- What a plain scalar spells. -/
def spelled (text : String) : Spelled :=
  if text.isEmpty || spellsNull text then .null
  else
    match spelledTruth? text, spelledInteger? text with
    | some b, _ => .value (.bool b)
    | none, some found => found
    | none, none =>
      match if hasIdleZero text.toList then none else float? text with
      | some x => .value (.float x)
      | none => .value (.string text)

/-- A value, if a text spells one. -/
def Spelled.value? : Spelled → Option Value
  | .value v => some v
  | .null | .tooWide => none

/-! ## 3. Words -/

/-- The value of a scalar with a tag. -/
def taggedValue? (tag text : String) : Option Value :=
  if tag = coreTag "bool" then (spelledTruth? text).map .bool
  else if tag = coreTag "int" then (spelledInteger? text).bind Spelled.value?
  else if tag = coreTag "float" then (float? text).map .float
  else if tag = coreTag "null" then none
  else some (.string text)

/-- The choice that a tag names, if it does. -/
def choiceTag? (tag : Option String) : Option String :=
  tag.bind fun t =>
    match t.toList with
    | '!' :: name => some (String.ofList name)
    | _ => none

/-- What a scalar can be read as.  Numbers and truth values are plain, or the literal text of a
scalar that is tagged as such. -/
def scalarWord (style : Style) (tag : Option String) (text : String) : Word :=
  let plain := style = .plain
  let readAs (name : String) : Bool := plain || (style = .literal && tag = some (coreTag name))
  let local? := choiceTag? tag
  { text := some text
    choice := match local? with
      | some name => if plain && (text.isEmpty || spellsNull text) then some name else none
      | none => some text
    truth := if readAs "bool" then spelledTruth? text else none
    number := if readAs "int" then integer? text else none
    count := if readAs "int" then unsigned? text.toList else none
    scalar := match local?, tag with
      | some _, _ => none
      | none, some t => taggedValue? t text
      | none, none => if plain then (spelled text).value? else some (.string text)
    isNull := plain && match tag with
      | none => text.isEmpty || spellsNull text
      | some t => t = coreTag "null" && spellsNull text
    isBlank := plain && text.isEmpty }

/-- The word for a place where nothing is written. -/
def emptyWord (tag : Option String) : Word := scalarWord .plain tag ""

end Rollout.Yaml
