import Rollout.Layer
/-!
# Definitions and what is wrong with them

A definition says what a space is to hold, in no particular order.  `ValidationError` names each way
in which it can be wrong.
-/

namespace Rollout

/-- A flag and how its value is computed. -/
structure FlagDefinition where
  name : String
  calculator : Calculator

/-- A segment before the space is put together. -/
inductive SegmentDefinition where
  | experiment (info : SegmentInfo) (overrides : Table String FlagOverride)
  | domain (info : SegmentInfo)

namespace SegmentDefinition

/-- What the segment has in common with any other. -/
def info : SegmentDefinition → SegmentInfo
  | .experiment info _ => info
  | .domain info => info

/-- The overrides of an experiment; a domain has none. -/
def overrides : SegmentDefinition → Table String FlagOverride
  | .experiment _ overrides => overrides
  | .domain _ => .empty

/-- Whether layers can be nested in the segment. -/
def isDomain : SegmentDefinition → Bool
  | .experiment _ _ => false
  | .domain _ => true

end SegmentDefinition

/-- All that a space is to hold. -/
structure SpaceDefinition where
  flags : List FlagDefinition
  criteria : List Criterion
  layers : List LayerInfo
  segments : List SegmentDefinition

/-- Why a definition is refused. -/
inductive ValidationError where
  | duplicateFlag (name : String)
  | flagTypeMismatch (name : String) (defined declared : FlagType)
  | duplicateCriterion (id : CriterionId)
  | invalidBucketCount (id : CriterionId) (buckets : Bucket)
  | duplicateLayer (id : LayerId)
  | launchLayerInDomain (layer : LayerId) (domain : SegmentId)
  | unknownDomain (layer : LayerId) (domain : SegmentId)
  | notADomain (layer : LayerId) (segment : SegmentId)
  | unresolvableDomains (layers : List LayerId)
  | duplicateSegment (id : SegmentId)
  | reservedSegmentId
  | unknownLayer (segment : SegmentId) (layer : LayerId)
  | unknownCriterion (segment : SegmentId) (criterion : CriterionId)
  | negativeBucket (segment : SegmentId) (bucket : Bucket)
  | bucketOutOfRange (segment : SegmentId) (bucket buckets : Bucket)
  | overlappingBuckets (segment : SegmentId) (layer : LayerId)
      (conflicts : Table SegmentId (KeySet Bucket))
  | invalidWindow (segment : SegmentId) (window : Window)
  | unknownFlag (segment : SegmentId) (flag : String)
  | invalidOverride (segment : SegmentId) (flag : String) (cause : CalculateError)
  | multipleLaunchLayers (flag : String) (layers : List LayerId)
  | overlappingLayers (flag : String) (first second : LayerId)

namespace ValidationError

/-- A number in a message. -/
def number (id : Int32) : String := toString id.toInt

/-- Numbers in a message. -/
def numbers (ids : List Int32) : String := ", ".intercalate (ids.map number)

/-- The buckets that each owner has already, in a message. -/
def conflictText (conflicts : Table SegmentId (KeySet Bucket)) : String :=
  let entry (e : SegmentId × KeySet Bucket) : String :=
    number e.1 ++ ": \x7b" ++ numbers e.2.keys ++ "\x7d"
  "\x7b" ++ ", ".intercalate (conflicts.entries.map entry) ++ "\x7d"

/-- What is said of the error. -/
def message : ValidationError → String
  | .duplicateFlag name => "flag " ++ name ++ " is defined more than once"
  | .flagTypeMismatch name defined declared =>
    "flag " ++ name ++ " is defined as " ++ defined.name ++ " but declared as " ++ declared.name
  | .duplicateCriterion id => "diversion criterion " ++ number id ++ " is defined more than once"
  | .invalidBucketCount id buckets =>
    "diversion criterion " ++ number id ++ " needs a positive bucket count, got " ++ number buckets
  | .duplicateLayer id => "layer " ++ number id ++ " is defined more than once"
  | .launchLayerInDomain layer domain =>
    "launch layer " ++ number layer ++ " must be top-level, found in domain " ++ number domain
  | .unknownDomain layer domain =>
    "layer " ++ number layer ++ " references unknown domain " ++ number domain
  | .notADomain layer segment =>
    "layer " ++ number layer ++ " is nested in segment " ++ number segment ++
      ", which is not a domain"
  | .unresolvableDomains layers =>
    "cannot resolve the domains of layers [" ++ numbers layers ++ "], their nesting is cyclic"
  | .duplicateSegment id => "segment " ++ number id ++ " is defined more than once"
  | .reservedSegmentId => "segment id 0 is reserved for the default domain"
  | .unknownLayer segment layer =>
    "segment " ++ number segment ++ " references unknown layer " ++ number layer
  | .unknownCriterion segment criterion =>
    "segment " ++ number segment ++ " references unknown diversion criterion " ++ number criterion
  | .negativeBucket segment bucket =>
    "segment " ++ number segment ++ " claims negative bucket " ++ number bucket
  | .bucketOutOfRange segment bucket buckets =>
    "segment " ++ number segment ++ " claims bucket " ++ number bucket ++
      ", but its criterion only has " ++ number buckets
  | .overlappingBuckets segment layer conflicts =>
    "segment " ++ number segment ++ " claims buckets already allocated in layer " ++
      number layer ++ ": " ++ conflictText conflicts
  | .invalidWindow segment window =>
    "segment " ++ number segment ++ " has an inverted time window [" ++
      toString window.start.toInt ++ ", " ++ toString window.stop.toInt ++ ")"
  | .unknownFlag segment flag =>
    "segment " ++ number segment ++ " overrides undefined flag " ++ flag
  | .invalidOverride segment flag cause =>
    "segment " ++ number segment ++ " has an invalid override for flag " ++ flag ++ ": " ++
      cause.message
  | .multipleLaunchLayers flag layers =>
    "flag " ++ flag ++ " is overridden in more than one launch layer: [" ++ numbers layers ++ "]"
  | .overlappingLayers flag first second =>
    "flag " ++ flag ++ " is overridden across overlapping layers " ++ number first ++ " and " ++
      number second

end ValidationError

end Rollout
