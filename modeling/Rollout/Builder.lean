import Rollout.Draft
import Rollout.Flag
/-!
# Building a space: the parts

The builder takes the parts of a space one at a time and checks each as it comes: a layer has to
follow the domain that it is nested in, and a segment its layer.  A part that is refused leaves the
builder as it was.

`Builder.addDefinition` takes a whole definition, in whatever order its parts are listed.
-/

namespace Rollout

/-- The parts of a space that were accepted so far. -/
structure Builder where
  /-- The types of the flags that the running code declares. -/
  declared : List (String × FlagType)
  flags : Table String Calculator
  criteria : Table CriterionId Criterion
  /-- The layers, the latest first: each comes before the layer that its domain is in. -/
  drafts : List LayerDraft

namespace Builder

/-- The builder with no parts, for the flags that are declared. -/
def start (declared : FlagRegistry) : Builder :=
  ⟨declared.declared.map fun flag => (flag.1, flag.2.type), .empty, .empty, []⟩

/-! ## 1. What is there -/

/-- All segments that were accepted. -/
def segments (b : Builder) : List SegmentDefinition := b.drafts.flatMap (·.segments)

/-- The segment of an id. -/
def segment? (b : Builder) (id : SegmentId) : Option SegmentDefinition :=
  b.segments.find? fun segment => segment.info.id == id

/-- Whether an id is that of a segment. -/
def hasSegment (b : Builder) (id : SegmentId) : Bool := (b.segment? id).isSome

/-- Whether an id is that of a domain. -/
def hasDomain (b : Builder) (id : SegmentId) : Bool := (b.segment? id).any (·.isDomain)

/-- The layer of an id. -/
def draft? (b : Builder) (id : LayerId) : Option LayerDraft :=
  b.drafts.find? fun draft => draft.info.id == id

/-- Whether an id is that of a layer. -/
def hasLayer (b : Builder) (id : LayerId) : Bool := (b.draft? id).isSome

/-! ## 2. One part at a time -/

/-- The builder with one more flag. -/
def addFlag (b : Builder) (flag : FlagDefinition) : Except ValidationError Builder := do
  if b.flags.contains flag.name then
    throw (.duplicateFlag flag.name)
  match b.declared.lookup flag.name with
  | some declared =>
    if declared ≠ flag.calculator.type then
      throw (.flagTypeMismatch flag.name flag.calculator.type declared)
  | none => pure ()
  return { b with flags := b.flags.insert flag.name flag.calculator }

/-- The builder with one more criterion. -/
def addCriterion (b : Builder) (criterion : Criterion) : Except ValidationError Builder := do
  if criterion.buckets ≤ 0 then
    throw (.invalidBucketCount criterion.id criterion.buckets)
  if b.criteria.contains criterion.id then
    throw (.duplicateCriterion criterion.id)
  return { b with criteria := b.criteria.insert criterion.id criterion }

/-- The builder with one more layer. -/
def addLayer (b : Builder) (info : LayerInfo) : Except ValidationError Builder := do
  if b.hasLayer info.id then
    throw (.duplicateLayer info.id)
  if info.launch && !info.isTop then
    throw (.launchLayerInDomain info.id info.domain)
  if !info.isTop && !b.hasDomain info.domain then
    if b.hasSegment info.domain then
      throw (.notADomain info.id info.domain)
    throw (.unknownDomain info.id info.domain)
  return { b with drafts := .start info :: b.drafts }

/-- Refuses the first window that ends before it starts. -/
def checkWindows (segment : SegmentId) : List Window → Except ValidationError Unit
  | [] => .ok ()
  | window :: rest =>
    if window.isInverted then .error (.invalidWindow segment window)
    else checkWindows segment rest

/-- Refuses the first override of a flag that is not defined or has another type. -/
def checkOverrides (b : Builder) (segment : SegmentId) :
    List (String × FlagOverride) → Except ValidationError Unit
  | [] => .ok ()
  | (flag, change) :: rest =>
    match b.flags.get? flag with
    | none => .error (.unknownFlag segment flag)
    | some calculator =>
      match change.expectType calculator.type with
      | .error cause => .error (.invalidOverride segment flag cause)
      | .ok () => checkOverrides b segment rest

/-- The layers after a segment was added to the one that it names. -/
def addToDraft (segment : SegmentDefinition) (criterion : Criterion) :
    List LayerDraft → Except ValidationError (List LayerDraft)
  | [] => .ok []
  | draft :: rest =>
    if draft.info.id = segment.info.layer then do
      return (← draft.add segment criterion) :: rest
    else do
      return draft :: (← addToDraft segment criterion rest)

/-- The builder with one more segment. -/
def addSegment (b : Builder) (segment : SegmentDefinition) : Except ValidationError Builder := do
  let info := segment.info
  if info.id = topDomain then
    throw .reservedSegmentId
  if b.hasSegment info.id then
    throw (.duplicateSegment info.id)
  if !b.hasLayer info.layer then
    throw (.unknownLayer info.id info.layer)
  match b.criteria.get? info.criterion with
  | none => throw (.unknownCriterion info.id info.criterion)
  | some criterion =>
    checkWindows info.id [info.active, info.overridesWindow]
    b.checkOverrides info.id segment.overrides.entries
    return { b with drafts := ← addToDraft segment criterion b.drafts }

/-! ## 3. A whole definition

What was accepted before the first refusal stays, so the builder comes back beside the error. -/

/-- Adds parts in order, up to the first that is refused. -/
def addEach (add : Builder → α → Except ValidationError Builder) (b : Builder) :
    List α → Builder × Option ValidationError
  | [] => (b, none)
  | part :: rest =>
    match add b part with
    | .error e => (b, some e)
    | .ok b => addEach add b rest

/-- Why a layer whose domain is not there yet can never be added, if it is for a reason of its own:
`pending` are the segments that are not added yet. -/
def hopeless? (b : Builder) (pending : List SegmentDefinition) (layer : LayerInfo) :
    Option ValidationError :=
  if layer.launch then some (.launchLayerInDomain layer.id layer.domain)
  else if b.hasSegment layer.domain then some (.notADomain layer.id layer.domain)
  else match pending.find? fun segment => segment.info.id == layer.domain with
    | none => some (.unknownDomain layer.id layer.domain)
    | some (.experiment _ _) => some (.notADomain layer.id layer.domain)
    | some (.domain _) => none

/-- Why none of the waiting layers can be added: the first that has a reason of its own, or else
that they are nested in each other. -/
def unresolved (b : Builder) (waiting : List LayerInfo) (pending : List SegmentDefinition) :
    ValidationError :=
  match waiting.findSome? (b.hopeless? pending) with
  | some e => e
  | none => .unresolvableDomains ((waiting.map (·.id)).mergeSort (· ≤ ·))

/-- Adds layers and segments in passes, each adding the layers whose domain is there and then the
segments whose layer is there.  Every pass adds a layer, so there are no more passes than layers. -/
def addPasses : Nat → Builder → List LayerInfo → List SegmentDefinition →
    Builder × Option ValidationError
  | passes, b, layers, segments =>
    match layers, passes with
    | [], _ =>
      match segments with
      | [] => (b, none)
      | segment :: _ => (b, some (.unknownLayer segment.info.id segment.info.layer))
    | _, 0 => (b, some (b.unresolved layers segments))
    | _, passes + 1 =>
      let (ready, waiting) := layers.partition fun layer => layer.isTop || b.hasDomain layer.domain
      if ready.isEmpty then (b, some (b.unresolved waiting segments))
      else
        match addEach addLayer b ready with
        | (b, some e) => (b, some e)
        | (b, none) =>
          let (ready, pending) := segments.partition fun segment => b.hasLayer segment.info.layer
          match addEach addSegment b ready with
          | (b, some e) => (b, some e)
          | (b, none) => addPasses passes b waiting pending

/-- Adds all that a definition lists. -/
def addDefinition (b : Builder) (definition : SpaceDefinition) :
    Builder × Option ValidationError :=
  match addEach addFlag b definition.flags with
  | (b, some e) => (b, some e)
  | (b, none) =>
    match addEach addCriterion b definition.criteria with
    | (b, some e) => (b, some e)
    | (b, none) => addPasses definition.layers.length b definition.layers definition.segments

end Builder

end Rollout
