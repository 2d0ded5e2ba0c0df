import Rollout.Bucket
import Rollout.Value
/-!
# Documents

What a document says about a space.  Values stand here as they are written and get a type only from
the flag that they belong to: `17`, `"17"` and `17.0` all have the text `17`, and an int flag
takes each of them for the same value.

A document can come in chunks; merged, they list what each of them lists, in order.
-/

namespace Rollout

/-- How the conditions of one place are taken together. -/
inductive Merge where
  | and
  | or
deriving Repr, DecidableEq

/-- What an override does with the modifiers that are there. -/
inductive OverrideMode where
  | replace
  | append
  | prepend
deriving Repr, DecidableEq

/-- A condition function with its arguments. -/
structure ConditionDocument where
  name : String
  arguments : List Value
  negate : Bool

/-- A conditional change of a value, and the changes of its own value. -/
inductive ModifierDocument where
  | mk (value : Value) (operator : String) (conditions : List ConditionDocument) (merge : Merge)
      (children : List ModifierDocument)

/-- A flag and how its value is computed. -/
structure FlagDocument where
  name : String
  type : String
  base : Value
  modifiers : List ModifierDocument

/-- A diversion criterion. -/
structure CriterionDocument where
  id : CriterionId
  buckets : Bucket
  random : Bool

/-- A layer. -/
structure LayerDocument where
  id : LayerId
  name : Option String
  domain : SegmentId
  launch : Bool
  unbiased : SegmentId
  fixedBiased : SegmentId
  randomBiased : SegmentId

/-- The buckets from `start` up to but not including `stop`. -/
structure BucketRange where
  start : Bucket
  stop : Bucket
deriving Repr, DecidableEq

/-- What an experiment does to a flag. -/
structure OverrideDocument where
  flag : String
  mode : OverrideMode
  /-- The value to replace the flag's base value with. -/
  base : Option Value
  modifiers : List ModifierDocument

/-- An experiment, or a domain. -/
structure SegmentDocument where
  id : SegmentId
  name : Option String
  layer : LayerId
  criterion : CriterionId
  domain : Bool
  buckets : List Bucket
  ranges : List BucketRange
  conditions : List ConditionDocument
  merge : Merge
  /-- The bounds of the times at which requests are taken in. -/
  start : Option Int64
  stop : Option Int64
  /-- The bounds of the times at which the overrides count. -/
  overridesStart : Option Int64
  overridesStop : Option Int64
  overrides : List OverrideDocument

/-- What a document lists. -/
structure SpaceDocument where
  flags : List FlagDocument
  criteria : List CriterionDocument
  layers : List LayerDocument
  segments : List SegmentDocument

namespace BucketRange

/-- How many buckets a range holds. -/
def size (r : BucketRange) : Nat := (r.stop.toInt - r.start.toInt).toNat

/-- The first buckets of a range, no more than `n`. -/
def take (n : Nat) (r : BucketRange) : List Bucket :=
  (List.range (min n r.size)).map fun (i : Nat) => Int32.ofInt (r.start.toInt + i)

/-- The buckets of a range. -/
def toList (r : BucketRange) : List Bucket := r.take r.size

end BucketRange

namespace SegmentDocument

/-- The buckets that a segment lists, and after them those of its ranges. -/
def allBuckets (s : SegmentDocument) : List Bucket :=
  s.buckets ++ s.ranges.flatMap BucketRange.toList

/-- The first buckets of ranges, no more than `n`. -/
def takeRanges : Nat → List BucketRange → List Bucket
  | _, [] => []
  | n, r :: rest => r.take n ++ takeRanges (n - r.size) rest

/-- The first of all buckets, no more than `n`. -/
def takeBuckets (n : Nat) (s : SegmentDocument) : List Bucket :=
  s.buckets.take n ++ takeRanges (n - s.buckets.length) s.ranges

end SegmentDocument

namespace SpaceDocument

/-- The document that lists nothing. -/
def empty : SpaceDocument := ⟨[], [], [], []⟩

/-- What two documents list, one after the other. -/
def merge (a b : SpaceDocument) : SpaceDocument :=
  ⟨a.flags ++ b.flags, a.criteria ++ b.criteria, a.layers ++ b.layers, a.segments ++ b.segments⟩

end SpaceDocument

end Rollout
