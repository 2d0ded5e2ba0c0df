import Rollout.CacheLevel
import Rollout.Context
import Rollout.Numeral
/-!
# Conditions

A condition is a predicate on a request, put together from leaves with `all`, `any` and `not`.  What
a leaf answers is a parameter: `Leaf.answer` is the answer for a given context, in which the host
answers for the leaves that it supplies itself, each with the arguments that it was given.

A condition has a cache level, the least stable of its leaves', whichever of them an evaluation
looks at: `all` stops at the first false member and `any` at the first true one, and
`Condition.asked` lists the leaves that were looked at, in order.
-/

namespace Rollout

/-- A condition that is not put together from others. -/
inductive Leaf where
  /-- The same answer for every request. -/
  | constant (answer : Bool)
  /-- Whether an attribute of the request is one of the values. -/
  | attribute (name : String) (level : CacheLevel) (values : List String)
  /-- True of every request; it only insists on the number of its arguments. -/
  | arity (least most : Nat)
  /-- A condition whose answer the host supplies. -/
  | supplied (name : String) (level : CacheLevel) (arguments : List String)
deriving Repr, DecidableEq

/-- What each leaf answers. -/
abbrev Answers := Leaf → Bool

/-- What the host answers for the conditions that it supplies, by their names and arguments. -/
abbrev Host := String → List String → Bool

namespace Leaf

/-- How long the answer of a leaf stays good. -/
def level : Leaf → CacheLevel
  | .constant _ => .reload
  | .attribute _ level _ => level
  | .arity _ _ => .none
  | .supplied _ level _ => level

/-- The answer of a leaf for a context; `host` answers for the supplied conditions. -/
def answer (context : Context) (host : Host) : Answers
  | .constant b => b
  | .attribute name _ values =>
    match context.attributes.get? name with
    | some v => values.contains v
    | none => false
  | .arity _ _ => true
  | .supplied name _ arguments => host name arguments

end Leaf

/-- A predicate on a request. -/
inductive Condition where
  | leaf (l : Leaf)
  | all (members : List Condition)
  | any (members : List Condition)
  | not (member : Condition)

namespace Condition

/-- The condition that every request meets. -/
def always : Condition := .leaf (.constant true)

/-- The condition that no request meets. -/
def never : Condition := .leaf (.constant false)

mutual

/-- Whether a condition holds. -/
def holds (answers : Answers) : Condition → Bool
  | .leaf l => answers l
  | .all members => allHold answers members
  | .any members => anyHolds answers members
  | .not member => !member.holds answers

/-- Whether every member holds. -/
def allHold (answers : Answers) : List Condition → Bool
  | [] => true
  | c :: cs => c.holds answers && allHold answers cs

/-- Whether some member holds. -/
def anyHolds (answers : Answers) : List Condition → Bool
  | [] => false
  | c :: cs => c.holds answers || anyHolds answers cs

end

mutual

/-- How long the answer of a condition stays good. -/
def level : Condition → CacheLevel
  | .leaf l => l.level
  | .all members => commonLevel members
  | .any members => commonLevel members
  | .not member => member.level

/-- The least stable level of the members. -/
def commonLevel : List Condition → CacheLevel
  | [] => .reload
  | c :: cs => c.level.meet (commonLevel cs)

end

mutual

/-- The leaves that an evaluation looks at, in order. -/
def asked (answers : Answers) : Condition → List Leaf
  | .leaf l => [l]
  | .all members => askedUntil answers false members
  | .any members => askedUntil answers true members
  | .not member => member.asked answers

/-- The leaves looked at up to the first member that answers `stop`. -/
def askedUntil (answers : Answers) (stop : Bool) : List Condition → List Leaf
  | [] => []
  | c :: cs =>
    c.asked answers ++ if c.holds answers = stop then [] else askedUntil answers stop cs

end

mutual

/-- All leaves of a condition. -/
def leaves : Condition → List Leaf
  | .leaf l => [l]
  | .all members => leavesOf members
  | .any members => leavesOf members
  | .not member => member.leaves

/-- All leaves of the members. -/
def leavesOf : List Condition → List Leaf
  | [] => []
  | c :: cs => c.leaves ++ leavesOf cs

end

/-- The condition that several ones make together: none is met by every request, and a single one
stands for itself. -/
def combine (join : List Condition → Condition) : List Condition → Condition
  | [] => always
  | [c] => c
  | cs => join cs

end Condition

end Rollout
