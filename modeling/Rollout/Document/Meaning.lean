import Rollout.Assembly
import Rollout.Condition.Registry
import Rollout.Document
import Rollout.Document.Tree
/-!
# What a document means

A document is turned into the definition of a space.  Its values get the types of their flags, its
operators are found by name for these types, and its conditions by name in a registry.

Every error says whom it is about: a flag, a segment, or the override of a flag in a segment.
-/

namespace Rollout

/-- What a part of a document belongs to. -/
inductive Owner where
  | flag (name : String)
  | segment (id : SegmentId)
  | override (segment : SegmentId) (flag : String)
deriving Repr, DecidableEq

namespace Owner

/-- The owner in a message. -/
def text : Owner → String
  | .flag name => "flag " ++ name
  | .segment id => "segment " ++ toString id.toInt
  | .override id name => "override of flag " ++ name ++ " in segment " ++ toString id.toInt

end Owner

/-- Why a document does not make a space. -/
inductive DocumentError where
  /-- A chunk is not written in its format, or does not have the form of a document. -/
  | malformed (format : Format) (chunk : Nat)
  | noFlags
  | value (owner : Owner) (cause : ValueError)
  | calculate (owner : Owner) (cause : CalculateError)
  | condition (owner : Owner) (cause : ConditionError)
  /-- Nothing is said of what to replace a base value with. -/
  | missingBase (owner : Owner)
  | duplicateOverride (owner : Owner)
  | invalidRange (segment : SegmentId) (range : BucketRange)
  | validation (cause : ValidationError)

namespace DocumentError

/-- What is said of the error. -/
def message : DocumentError → String
  | .malformed .yaml chunk => "chunk " ++ toString chunk ++ " is not a valid YAML space document"
  | .malformed .json chunk => "chunk " ++ toString chunk ++ " is not a valid JSON space document"
  | .noFlags => "no flags are defined"
  | .value owner cause => owner.text ++ ": " ++ cause.message
  | .calculate owner cause => owner.text ++ ": " ++ cause.message
  | .condition owner cause => owner.text ++ ": " ++ cause.message
  | .missingBase owner => owner.text ++ ": replace needs a base value"
  | .duplicateOverride owner => owner.text ++ " is defined more than once"
  | .invalidRange segment range =>
    "segment " ++ toString segment.toInt ++ " has an invalid bucket range [" ++
      toString range.start.toInt ++ ", " ++ toString range.stop.toInt ++ ")"
  | .validation cause => cause.message

end DocumentError

/-! ## 1. Values and conditions -/

/-- A written value as a value of a type: whatever type it has as written, only its text counts. -/
def typedValue (owner : Owner) (type : FlagType) (written : Value) : Except DocumentError Value :=
  (Value.parse type written.text).mapError (.value owner)

/-- The condition that a condition function makes of its written arguments. -/
def ConditionDocument.meaning (registry : ConditionRegistry) (owner : Owner)
    (d : ConditionDocument) : Except DocumentError Condition := do
  let condition ← (registry.create d.name (d.arguments.map Value.text)).mapError (.condition owner)
  return if d.negate then .not condition else condition

/-- The condition that several ones make. -/
def Merge.join : Merge → List Condition → Condition
  | .and => .all
  | .or => .any

/-- The condition that the conditions of one place make together. -/
def conditionMeaning (registry : ConditionRegistry) (owner : Owner) (merge : Merge)
    (documents : List ConditionDocument) : Except DocumentError Condition := do
  let conditions ← documents.mapM (·.meaning registry owner)
  return Condition.combine merge.join conditions

/-! ## 2. Modifiers, flags and overrides -/

mutual

/-- The modifier of values of a type that a document describes. -/
def ModifierDocument.meaning (registry : ConditionRegistry) (owner : Owner) (type : FlagType) :
    ModifierDocument → Except DocumentError Modifier
  | .mk written operator conditions merge children => do
    let value ← typedValue owner type written
    let operator ← (Operator.resolve operator type).mapError (.calculate owner)
    let condition ← conditionMeaning registry owner merge conditions
    let children ← modifierMeanings registry owner type children
    (Modifier.make value operator condition children).mapError (.calculate owner)

/-- The modifiers of values of a type that documents describe. -/
def modifierMeanings (registry : ConditionRegistry) (owner : Owner) (type : FlagType) :
    List ModifierDocument → Except DocumentError (List Modifier)
  | [] => .ok []
  | d :: ds => do
    let modifier ← d.meaning registry owner type
    let modifiers ← modifierMeanings registry owner type ds
    return modifier :: modifiers

end

/-- The definition of a flag. -/
def FlagDocument.meaning (registry : ConditionRegistry) (d : FlagDocument) :
    Except DocumentError FlagDefinition := do
  let owner := Owner.flag d.name
  let type ← (FlagType.parse d.type).mapError (.value owner)
  let base ← typedValue owner type d.base
  let modifiers ← modifierMeanings registry owner type d.modifiers
  let calculator ← (Calculator.make base modifiers).mapError (.calculate owner)
  return ⟨d.name, calculator⟩

/-- The override of a flag of a type.  Only one that replaces needs a base value; any other does not
look at it. -/
def OverrideDocument.meaning (registry : ConditionRegistry) (segment : SegmentId) (type : FlagType)
    (d : OverrideDocument) : Except DocumentError FlagOverride := do
  let owner := Owner.override segment d.flag
  let modifiers ← modifierMeanings registry owner type d.modifiers
  match d.mode with
  | .append => return .append modifiers
  | .prepend => return .prepend modifiers
  | .replace =>
    match d.base with
    | none => throw (.missingBase owner)
    | some written =>
      let base ← typedValue owner type written
      let calculator ← (Calculator.make base modifiers).mapError (.calculate owner)
      return .replace calculator

/-- The overrides of a segment on top of those that were read before them. -/
def overrideMeanings (registry : ConditionRegistry) (types : List (String × FlagType))
    (segment : SegmentId) (done : Table String FlagOverride) :
    List OverrideDocument → Except DocumentError (Table String FlagOverride)
  | [] => .ok done
  | d :: ds =>
    match types.lookup d.flag with
    | none => .error (.validation (.unknownFlag segment d.flag))
    | some type => do
      let change ← d.meaning registry segment type
      if done.contains d.flag then
        throw (.duplicateOverride (.override segment d.flag))
      overrideMeanings registry types segment (done.insert d.flag change) ds

/-! ## 3. Segments -/

/-- Refuses the first range that is upside down or that claims buckets which the criterion does not
have.  An empty range claims none, so that it needs no criterion. -/
def checkRanges (counts : Table CriterionId Bucket) (segment : SegmentId)
    (criterion : CriterionId) : List BucketRange → Except DocumentError Unit
  | [] => .ok ()
  | range :: rest =>
    if range.start < 0 ∨ range.stop < range.start then .error (.invalidRange segment range)
    else if range.start = range.stop then checkRanges counts segment criterion rest
    else
      match counts.get? criterion with
      | none => .error (.validation (.unknownCriterion segment criterion))
      | some count =>
        if count < range.stop then
          .error (.validation (.bucketOutOfRange segment (range.stop - 1) count))
        else checkRanges counts segment criterion rest

/-- The definition of a segment.  The overrides of a domain mean nothing. -/
def SegmentDocument.meaning (registry : ConditionRegistry) (types : List (String × FlagType))
    (counts : Table CriterionId Bucket) (d : SegmentDocument) :
    Except DocumentError SegmentDefinition := do
  checkRanges counts d.id d.criterion d.ranges
  let condition ← conditionMeaning registry (.segment d.id) d.merge d.conditions
  let info : SegmentInfo := {
    id := d.id
    layer := d.layer
    criterion := d.criterion
    buckets := KeySet.ofKeys d.allBuckets
    condition
    active := .between d.start d.stop
    overridesWindow := .between d.overridesStart d.overridesStop }
  if d.domain then return .domain info
  else return .experiment info (← overrideMeanings registry types d.id .empty d.overrides)

/-! ## 4. The whole document -/

namespace LayerDocument

/-- The layer that a document describes; its name says nothing. -/
def meaning (d : LayerDocument) : LayerInfo :=
  ⟨d.id, d.domain, d.launch, d.unbiased, d.fixedBiased, d.randomBiased⟩

end LayerDocument

namespace SpaceDocument

/-- The definition of a space.  Of two flags of one name it is the first that gives overrides their
type, and of two criteria of one number the last that bounds ranges; what such doubles mean
otherwise is for the builder to say. -/
def meaning (registry : ConditionRegistry) (d : SpaceDocument) :
    Except DocumentError SpaceDefinition := do
  if d.flags.isEmpty then
    throw .noFlags
  let flags ← d.flags.mapM (·.meaning registry)
  let types := flags.map fun flag => (flag.name, flag.calculator.type)
  let counts := Table.ofList (d.criteria.map fun criterion => (criterion.id, criterion.buckets))
  let segments ← d.segments.mapM (·.meaning registry types counts)
  return {
    flags
    criteria := d.criteria.map fun criterion => ⟨criterion.id, criterion.buckets, criterion.random⟩
    layers := d.layers.map LayerDocument.meaning
    segments }

end SpaceDocument

/-- The space of a definition, for the flags that the running code declares. -/
def SpaceDefinition.build (declared : FlagRegistry) (definition : SpaceDefinition)
    (version : String) : Except ValidationError Space :=
  match (Builder.start declared).addDefinition definition with
  | (_, some e) => .error e
  | (b, none) => b.build version

end Rollout
