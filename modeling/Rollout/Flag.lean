import Rollout.Value
/-!
# Declared flags

The code that reads a flag declares it, with its default.  The registry keeps the declarations of a
process, and a name keeps the type and the default it was first declared with.
-/

namespace Rollout

/-- A handle to a declared flag: its name and the value it has where nothing defines it. -/
structure Flag where
  name : String
  default : Value

/-- The type of a flag. -/
def Flag.type (flag : Flag) : FlagType := flag.default.type

/-- Why a flag cannot be declared. -/
inductive FlagError where
  | incompatibleType (name : String) (declared requested : FlagType)
  | conflictingDefault (name : String) (declared requested : Value)

/-- What is said of the error. -/
def FlagError.message : FlagError → String
  | .incompatibleType name declared requested =>
    "flag " ++ name ++ " is declared as " ++ declared.name ++ ", cannot redeclare it as " ++
      requested.name
  | .conflictingDefault name declared requested =>
    "flag " ++ name ++ " is declared with default " ++ declared.text ++
      ", cannot redeclare it with " ++ requested.text

/-- The declared flags with their defaults, in the order of declaration. -/
structure FlagRegistry where
  declared : List (String × Value)

namespace FlagRegistry

/-- The registry in which nothing is declared. -/
def empty : FlagRegistry := ⟨[]⟩

/-- The default that a name was declared with. -/
def default? (registry : FlagRegistry) (name : String) : Option Value :=
  registry.declared.lookup name

/-- The type that a name was declared with. -/
def type? (registry : FlagRegistry) (name : String) : Option FlagType :=
  (registry.default? name).map Value.type

/-- Declares a flag.  A name that is declared already has to be declared with the same type and an
equal default. -/
def declare (registry : FlagRegistry) (flag : Flag) : Except FlagError FlagRegistry :=
  match registry.default? flag.name with
  | none => .ok ⟨registry.declared ++ [(flag.name, flag.default)]⟩
  | some declared =>
    if declared.type ≠ flag.type then
      .error (.incompatibleType flag.name declared.type flag.type)
    else if !declared.same flag.default then
      .error (.conflictingDefault flag.name declared flag.default)
    else .ok registry

end FlagRegistry

end Rollout
