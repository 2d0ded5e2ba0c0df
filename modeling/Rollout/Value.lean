import Rollout.CacheLevel
import Rollout.Decimal.Read
import Rollout.Decimal.Shortest
import Rollout.Text.Blank
import Rollout.Text.Quoted
/-!
# Flag values

A flag has one of four types, and a value of its type.  Both have a text: `FlagType.parse` and
`Value.parse` read it, `FlagType.name` and `Value.text` write it.  Blanks around a number or a
truth value do not count; a string is its text as it stands.

An `Evaluation` is a value together with how long it stays good.
-/

namespace Rollout

/-- The type of a flag. -/
inductive FlagType where
  | bool
  | int
  | float
  | string
deriving Repr, DecidableEq

namespace FlagType

/-- The name of a type in messages. -/
def name : FlagType → String
  | .bool => "bool"
  | .int => "int"
  | .float => "float"
  | .string => "string"

end FlagType

/-- Why a text is no type or no value. -/
inductive ValueError where
  | unknownType (name : String)
  | unparseable (type : FlagType) (raw : String)
deriving Repr, DecidableEq

namespace ValueError

/-- What is said of the error. -/
def message : ValueError → String
  | .unknownType name => "unknown flag type: " ++ name
  | .unparseable type raw => "cannot parse " ++ Text.quoted raw ++ " as " ++ type.name

end ValueError

/-- The type that a name stands for; it may be written in letters of either case. -/
def FlagType.parse (name : String) : Except ValueError FlagType :=
  match name.toLower with
  | "bool" | "boolean" => .ok .bool
  | "int" | "long" | "integer" => .ok .int
  | "float" | "double" => .ok .float
  | "string" => .ok .string
  | _ => .error (.unknownType name)

/-- The value of a flag. -/
inductive Value where
  | bool (b : Bool)
  | int (i : Int64)
  | float (x : Float)
  | string (s : String)

namespace Value

/-- The type of a value. -/
def type : Value → FlagType
  | .bool _ => .bool
  | .int _ => .int
  | .float _ => .float
  | .string _ => .string

/-- The text of a value. -/
def text : Value → String
  | .bool true => "true"
  | .bool false => "false"
  | .int i => toString i.toInt
  | .float x => Decimal.floatText x
  | .string s => s

/-- The truth value that a text spells, in letters of either case. -/
def parseBool? (cs : List Char) : Option Bool :=
  match cs.map Char.toLower with
  | ['t', 'r', 'u', 'e'] => some true
  | ['f', 'a', 'l', 's', 'e'] => some false
  | _ => none

/-- The value of a type that a text spells. -/
def parse? (type : FlagType) (raw : String) : Option Value :=
  let trimmed := Text.trimChars raw.toList
  match type with
  | .bool => (parseBool? trimmed).map .bool
  | .int => (Numeral.int64? trimmed).map .int
  | .float => (Decimal.readFloat? trimmed).map .float
  | .string => some (.string raw)

/-- The value of a type that a text spells, or that it spells none. -/
def parse (type : FlagType) (raw : String) : Except ValueError Value :=
  match parse? type raw with
  | some v => .ok v
  | none => .error (.unparseable type raw)

/-- Whether two values are equal as values of their type: floats compare as numbers, so that the
two zeros are equal and a value that is no number differs from itself. -/
def same : Value → Value → Bool
  | .bool a, .bool b => a == b
  | .int a, .int b => a == b
  | .float a, .float b => a == b
  | .string a, .string b => a == b
  | _, _ => false

theorem type_of_same {a b : Value} (h : a.same b = true) : a.type = b.type := by
  cases a <;> cases b <;> first | rfl | exact nomatch h

theorem type_of_parse? {type : FlagType} {raw : String} {v : Value} (h : parse? type raw = some v) :
    v.type = type := by
  cases type <;> simp only [parse?, Option.map_eq_some_iff, Option.some.injEq] at h
  all_goals (obtain ⟨_, _, rfl⟩ := h; rfl)

/-- A parsed value has the type that was asked for. -/
theorem type_of_parse {type : FlagType} {raw : String} {v : Value} (h : parse type raw = .ok v) :
    v.type = type := by
  unfold parse at h
  split at h
  · cases h; next hv => exact type_of_parse? hv
  · cases h

end Value

/-- A computed value together with how long it stays good. -/
structure Evaluation where
  value : Value
  level : CacheLevel

namespace Evaluation

/-- The evaluation, good for no longer than `level`. -/
def limit (e : Evaluation) (level : CacheLevel) : Evaluation :=
  { e with level := e.level.meet level }

end Evaluation

end Rollout
