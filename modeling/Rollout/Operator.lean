import Rollout.Value
/-!
# Operators

An operator folds a value into an accumulated one.  It is found by its name and a type of values,
and it combines values of that type only; `override` combines any.
-/

namespace Rollout

/-- A way to fold a value into another. -/
inductive Operator where
  /-- The new value takes the place of the old one. -/
  | override
  /-- Or, sum, concatenation. -/
  | add (type : FlagType)
  /-- And, product. -/
  | multiply (type : FlagType)
deriving Repr, DecidableEq

/-- Why a calculation cannot be put together. -/
inductive CalculateError where
  | unknownOperator (name : String) (type : FlagType)
  | operatorMismatch (operator : Operator) (type : FlagType)
  | typeMismatch (expected actual : FlagType)
deriving Repr, DecidableEq

namespace Operator

/-- The name of an operator. -/
def name : Operator → String
  | .override => "override"
  | .add _ => "add"
  | .multiply _ => "multiply"

/-- The operator of a name, in letters of either case, for values of a type.  Strings cannot be
multiplied. -/
def resolve (name : String) (type : FlagType) : Except CalculateError Operator :=
  match name.toLower, type with
  | "override", _ => .ok .override
  | "add", t => .ok (.add t)
  | "multiply", .string => .error (.unknownOperator name .string)
  | "multiply", t => .ok (.multiply t)
  | _, _ => .error (.unknownOperator name type)

/-- Whether the order of the two values does not matter. -/
def isCommutative : Operator → Bool
  | .override => false
  | .add _ | .multiply _ => true

/-- Whether the operator combines values of a type. -/
def accepts : Operator → FlagType → Bool
  | .override, _ => true
  | .add t, type | .multiply t, type => t == type

/-- The value that two values make.  Whole numbers are computed modulo `2 ^ 64`.  Values that do not
belong together make the new one. -/
def apply : Operator → Value → Value → Value
  | .override, _, next => next
  | .add _, .bool a, .bool b => .bool (a || b)
  | .add _, .int a, .int b => .int (a + b)
  | .add _, .float a, .float b => .float (a + b)
  | .add _, .string a, .string b => .string (a ++ b)
  | .multiply _, .bool a, .bool b => .bool (a && b)
  | .multiply _, .int a, .int b => .int (a * b)
  | .multiply _, .float a, .float b => .float (a * b)
  | _, _, next => next

/-- The outcome has the type of the value that was applied. -/
theorem type_apply (op : Operator) (current next : Value) :
    (op.apply current next).type = next.type := by
  cases op <;> cases current <;> cases next <;> rfl

end Operator

namespace CalculateError

/-- What is said of the error. -/
def message : CalculateError → String
  | .unknownOperator name type =>
    "no operator " ++ Text.quoted name ++ " for " ++ type.name ++ " values"
  | .operatorMismatch operator type =>
    "operator " ++ operator.name ++ " cannot combine " ++ type.name ++ " values"
  | .typeMismatch expected actual =>
    "expected a " ++ expected.name ++ " value, found " ++ actual.name

end CalculateError

end Rollout
