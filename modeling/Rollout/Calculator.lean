import Rollout.Condition
import Rollout.Operator
/-!
# Calculators

The value of a flag is a base value with modifiers folded into it in order.  A modifier that applies
first folds its children into its own value and then itself into the accumulated one.  A modifier
whose condition fails leaves the accumulated value alone but limits how long it stays good: that
nothing happened is only as stable as the condition that made it so.

`Modifier.make` and `Calculator.make` refuse what does not fit by type.
-/

namespace Rollout

/-- A conditional change of a value. -/
inductive Modifier where
  | mk (value : Value) (operator : Operator) (condition : Condition) (children : List Modifier)

/-- Refuses a type that is not the expected one. -/
def expectType (expected actual : FlagType) : Except CalculateError Unit :=
  if expected = actual then .ok () else .error (.typeMismatch expected actual)

namespace Modifier

/-- The value that the modifier brings. -/
def value : Modifier → Value
  | .mk value _ _ _ => value

/-- The type of the values that the modifier changes. -/
def type (m : Modifier) : FlagType := m.value.type

/-- Refuses the first modifier that does not change values of a type. -/
def expectAll (type : FlagType) : List Modifier → Except CalculateError Unit
  | [] => .ok ()
  | m :: ms => do
    expectType type m.type
    expectAll type ms

/-- The modifier of these parts, if its operator and its children fit the type of its value. -/
def make (value : Value) (operator : Operator) (condition : Condition)
    (children : List Modifier) : Except CalculateError Modifier := do
  if !operator.accepts value.type then
    throw (.operatorMismatch operator value.type)
  expectAll value.type children
  return .mk value operator condition children

mutual

/-- Folds a modifier into an evaluation. -/
def apply (answers : Answers) : Modifier → Evaluation → Evaluation
  | .mk value operator condition children, acc =>
    if condition.holds answers then
      let own := applyAll answers children ⟨value, condition.level⟩
      ⟨operator.apply acc.value own.value, acc.level.meet own.level⟩
    else acc.limit condition.level

/-- Folds modifiers into an evaluation, in order. -/
def applyAll (answers : Answers) : List Modifier → Evaluation → Evaluation
  | [], acc => acc
  | m :: ms, acc => applyAll answers ms (m.apply answers acc)

end

mutual

/-- The leaves that applying a modifier looks at, in order. -/
def asked (answers : Answers) : Modifier → List Leaf
  | .mk _ _ condition children =>
    condition.asked answers ++ if condition.holds answers then askedAll answers children else []

/-- The leaves that applying modifiers looks at, in order. -/
def askedAll (answers : Answers) : List Modifier → List Leaf
  | [] => []
  | m :: ms => m.asked answers ++ askedAll answers ms

end

end Modifier

/-- A base value and the modifiers folded into it. -/
structure Calculator where
  base : Value
  modifiers : List Modifier

namespace Calculator

/-- The type of the values that are computed. -/
def type (c : Calculator) : FlagType := c.base.type

/-- The calculator of these parts, if the modifiers fit the type of the base value. -/
def make (base : Value) (modifiers : List Modifier) : Except CalculateError Calculator := do
  Modifier.expectAll base.type modifiers
  return ⟨base, modifiers⟩

/-- The value of the flag, and how long it stays good. -/
def evaluate (answers : Answers) (c : Calculator) : Evaluation :=
  Modifier.applyAll answers c.modifiers ⟨c.base, .reload⟩

/-- The leaves that an evaluation looks at, in order. -/
def asked (answers : Answers) (c : Calculator) : List Leaf :=
  Modifier.askedAll answers c.modifiers

end Calculator

end Rollout
