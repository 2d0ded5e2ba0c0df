import Rollout.Calculator
import Rollout.Table
/-!
# Overrides and settings

An experiment changes the calculator of a flag by an override: it replaces the calculator, or runs
modifiers of its own after or before those that are there.

Settings are a table of calculators with layers of overriding tables on top.  A flag has the
calculator of the newest layer that names it.
-/

namespace Rollout

/-- How an experiment changes the calculator of a flag. -/
inductive FlagOverride where
  /-- Another calculator takes its place. -/
  | replace (calculator : Calculator)
  /-- The modifiers run after those that are there. -/
  | append (modifiers : List Modifier)
  /-- The modifiers run before those that are there. -/
  | prepend (modifiers : List Modifier)

namespace FlagOverride

/-- The overridden calculator. -/
def apply : FlagOverride → Calculator → Calculator
  | .replace calculator, _ => calculator
  | .append modifiers, c => { c with modifiers := c.modifiers ++ modifiers }
  | .prepend modifiers, c => { c with modifiers := modifiers ++ c.modifiers }

/-- Refuses an override that does not compute values of a type. -/
def expectType (type : FlagType) : FlagOverride → Except CalculateError Unit
  | .replace calculator => Rollout.expectType type calculator.type
  | .append modifiers | .prepend modifiers => Modifier.expectAll type modifiers

end FlagOverride

/-- Calculators by the name of their flag. -/
abbrev Overrides := Table String Calculator

/-- Calculators with layers of overrides on top, the newest first. -/
structure Settings where
  base : Overrides
  layers : List Overrides

namespace Settings

/-- The calculator of a flag. -/
def calculator? (s : Settings) (name : String) : Option Calculator :=
  (s.layers.findSome? (·.get? name)).or (s.base.get? name)

/-- The names of all flags that have a calculator. -/
def flagNames (s : Settings) : KeySet String :=
  KeySet.ofKeys (s.base.keys ++ s.layers.flatMap (·.keys))

end Settings

end Rollout
