import Rollout.Condition
/-!
# Condition functions

Documents name conditions as functions of string arguments.  A function makes a leaf of its
arguments or refuses them.  `Leaf.withArguments` is how the leaves of this library take arguments; a
host may bring functions of its own, that refuse what they will.  A registry maps each name to a
function.  Several registries combine into one if no name is in two of them.
-/

namespace Rollout

/-- Why a condition cannot be had. -/
inductive ConditionError where
  | arity (least most actual : Nat)
  | invalidArgument (what : String)
  | unknown (name : String)
  | duplicate (name : String)
deriving Repr, DecidableEq

namespace ConditionError

/-- What is said of the error. -/
def message : ConditionError → String
  | .arity least most actual =>
    "expected between " ++ toString least ++ " and " ++ toString most ++ " arguments, got " ++
      toString actual
  | .invalidArgument what => "invalid argument: " ++ what
  | .unknown name => "unknown condition function: " ++ name
  | .duplicate name => "condition function " ++ name ++ " is provided by more than one factory"

end ConditionError

/-- What a name stands for: it makes a leaf of its arguments, unless it refuses them. -/
abbrev ConditionFunction := List String → Except ConditionError Leaf

/-- The leaf with its arguments.  An attribute is compared with at least one value, and what the
host supplies takes any arguments. -/
def Leaf.withArguments (leaf : Leaf) : ConditionFunction := fun arguments =>
  match leaf with
  | .constant answer => .ok (.constant answer)
  | .attribute name level _ =>
    if arguments.isEmpty then .error (.arity 1 Numeral.maxCount 0)
    else .ok (.attribute name level arguments)
  | .arity least most =>
    if arguments.length < least ∨ most < arguments.length then
      .error (.arity least most arguments.length)
    else .ok (.arity least most)
  | .supplied name level _ => .ok (.supplied name level arguments)

/-- The condition functions that can be named. -/
structure ConditionRegistry where
  functions : Table String ConditionFunction

namespace ConditionRegistry

/-- The registry with no functions. -/
def empty : ConditionRegistry := ⟨.empty⟩

/-- The names of the functions, ascending. -/
def names (registry : ConditionRegistry) : List String := registry.functions.keys

/-- The registry with one more function, under a name that it does not have yet. -/
def register (registry : ConditionRegistry) (name : String) (function : ConditionFunction) :
    Except ConditionError ConditionRegistry :=
  if registry.functions.contains name then .error (.duplicate name)
  else .ok ⟨registry.functions.insert name function⟩

/-- The registry of a list of functions. -/
def ofList (functions : List (String × ConditionFunction)) :
    Except ConditionError ConditionRegistry :=
  functions.foldlM (fun registry f => registry.register f.1 f.2) empty

/-- The condition that a function makes of its arguments. -/
def create (registry : ConditionRegistry) (name : String) (arguments : List String) :
    Except ConditionError Condition :=
  match registry.functions.get? name with
  | none => .error (.unknown name)
  | some function => (function arguments).map .leaf

/-- The functions of all the registries, of which no two may have the same name.  The first name
found again is the one reported. -/
def union (registries : List ConditionRegistry) : Except ConditionError ConditionRegistry :=
  ofList (registries.flatMap fun registry => registry.functions.entries)

end ConditionRegistry

end Rollout
