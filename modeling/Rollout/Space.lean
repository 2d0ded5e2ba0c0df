import Rollout.Layer
/-!
# Spaces

A space is a configuration that has been checked and put together: the flags, the criteria, and the
layers with their segments.  It never changes; which of its segments are turned off is said beside
it, in a `Snapshot`.

`Snapshot.divert` takes a request through the space.  The request meets first the launch layers and
then the others, each pass leaving one layer of overrides; a request that is forced into segments
meets only these.
-/

namespace Rollout

/-- A checked configuration. -/
structure Space where
  version : String
  /-- The calculators of the defined flags. -/
  flags : Overrides
  /-- Every segment by its id, nested ones included. -/
  segments : Table SegmentId Segment
  /-- The criteria, in ascending order of their ids. -/
  criteria : List Criterion
  /-- The launch layers, in ascending order of their ids. -/
  launchLayers : List Layer
  /-- The other layers that stand in the space itself, in ascending order of their ids. -/
  permanentLayers : List Layer
  /-- The label of every id that a request can gain, and of every segment. -/
  labels : Table SegmentId String

namespace Space

/-- The label of an id in reports. -/
def labelText (id : SegmentId) : String := toString id.toInt

/-- The labels of segments and of what layers own. -/
def labelsOf (segments : Table SegmentId Segment) (layers : List Layer) : Table SegmentId String :=
  Table.mapValues (fun id _ => labelText id)
    (layers.foldl (fun ids layer => KeySet.union ids layer.owned) (KeySet.ofKeys segments.keys))

/-- The space of these parts. -/
def make (version : String) (flags : Overrides) (segments : Table SegmentId Segment)
    (criteria : List Criterion) (launchLayers permanentLayers : List Layer) : Space :=
  ⟨version, flags, segments, criteria, launchLayers, permanentLayers,
    labelsOf segments (launchLayers ++ permanentLayers)⟩

/-- The space with no flags, layers or segments. -/
def empty (version : String) : Space := make version .empty .empty [] [] []

/-- The settings of a request that meets no overrides. -/
def settings (space : Space) : Settings := ⟨space.flags, []⟩

/-- The label of an id. -/
def label (space : Space) (id : SegmentId) : String := (space.labels.get? id).getD (labelText id)

end Space

/-- A space and its kill switches: the segments that are turned off. -/
structure Snapshot where
  space : Space
  disabled : KeySet SegmentId

namespace Snapshot

/-- The space with everything turned on. -/
def of (space : Space) : Snapshot := ⟨space, .empty⟩

/-- Turns a segment off, if the space has it. -/
def disable? (snapshot : Snapshot) (id : SegmentId) : Option Snapshot :=
  if snapshot.space.segments.contains id then
    some { snapshot with disabled := KeySet.add snapshot.disabled id }
  else none

end Snapshot

/-! ## 1. What visits add up to -/

/-- Several segments of a layer would take the request in: the space was put together wrongly. -/
structure DiversionError where
  layer : LayerId
  bucket : Bucket
  segments : List SegmentId
deriving Repr, DecidableEq

/-- What is said of the error. -/
def DiversionError.message (e : DiversionError) : String :=
  "segments [" ++ ", ".intercalate (e.segments.map fun id => toString id.toInt) ++ "] of layer " ++
    toString e.layer.toInt ++ " are all valid for bucket " ++ toString e.bucket.toInt

/-- What a request has gained so far. -/
structure Gain where
  /-- The ids that are recorded. -/
  ids : KeySet SegmentId
  /-- The overrides of the pass. -/
  overrides : Overrides
  /-- The leaves that were looked at, in order. -/
  asked : List Leaf

namespace Gain

/-- Nothing yet. -/
def none : Gain := ⟨.empty, .empty, []⟩

/-- The overrides with those of an effect: the ones for every request, and over them, in ascending
order, the ones for the launch experiments that the request is in. -/
def applyEffect (isIn : SegmentId → Bool) (overrides : Overrides) (effect : Effect) : Overrides :=
  effect.launch.entries.foldl
    (fun overrides entry => if isIn entry.1 then overrides.overlay entry.2 else overrides)
    (overrides.overlay effect.base)

/-- What a request has gained after one more visit.  An experiment is recorded whether or not its
overrides count at the time of the request. -/
def visit (scope : Scope) (gain : Gain) (v : Visit) : Except DiversionError Gain :=
  let gain := { gain with asked := gain.asked ++ v.asked }
  match v.outcome with
  | .carried | .domain _ => .ok gain
  | .fallback id => .ok { gain with ids := KeySet.add gain.ids id }
  | .experiment info effect =>
    let ids := KeySet.add gain.ids info.id
    if info.overridesWindow.contains scope.context.time then
      let isIn id := ids.contains id || scope.carried.contains id
      .ok { gain with ids, overrides := applyEffect isIn gain.overrides effect }
    else .ok { gain with ids }
  | .contested bucket segments => .error ⟨v.layer, bucket, segments⟩

/-- What a request has gained after visits. -/
def visitAll (scope : Scope) (gain : Gain) (visits : List Visit) : Except DiversionError Gain :=
  visits.foldlM (visit scope) gain

end Gain

/-! ## 2. Diversion -/

/-- What one diversion brings a request. -/
structure Diversion where
  /-- The ids that are recorded. -/
  ids : KeySet SegmentId
  /-- The layers of overrides, the newest first; none of them is empty. -/
  layers : List Overrides
  /-- The leaves that were looked at, in order. -/
  asked : List Leaf

/-- The random numbers of one diversion.  The first argument is the forced segment that leads to the
layer, or `topDomain` when none does: on the way from it no layer is met twice. -/
abbrev Draws := SegmentId → LayerId → CriterionId → Nat

namespace Snapshot

/-- What decides on the way of a request through the space. -/
def scope (snapshot : Snapshot) (host : Host) (draws : Draws) (context : Context)
    (carried : KeySet SegmentId) (root : SegmentId) : Scope :=
  ⟨context, host, carried, snapshot.space.criteria, snapshot.disabled, draws root⟩

/-- The overrides that a pass leaves, if there are any. -/
def passLayer (overrides : Overrides) : List Overrides :=
  if overrides.isEmpty then [] else [overrides]

/-- What a request meets that is forced into a segment.  One that is carried already, turned off or
unknown is passed by. -/
def forcedVisits (snapshot : Snapshot) (scope : Scope) (id : SegmentId) : List Visit :=
  match snapshot.space.segments.get? id with
  | none => []
  | some segment =>
    if scope.carried.contains id || snapshot.disabled.contains id then []
    else segment.visits scope []

/-- The diversion of a request that is forced into segments. -/
def divertForced (snapshot : Snapshot) (scope : SegmentId → Scope) (forced : List SegmentId) :
    Except DiversionError Diversion := do
  let gain ← forced.foldlM
    (fun gain id => gain.visitAll (scope id) (snapshot.forcedVisits (scope id) id)) Gain.none
  return ⟨gain.ids, passLayer gain.overrides, gain.asked⟩

/-- The diversion of a request through the launch layers and then the others. -/
def divertByBucket (snapshot : Snapshot) (scope : Scope) : Except DiversionError Diversion := do
  let launched ← Gain.none.visitAll scope (visitsOfLayers scope snapshot.space.launchLayers)
  let settled ← Gain.visitAll scope { launched with overrides := .empty }
    (visitsOfLayers scope snapshot.space.permanentLayers)
  return ⟨settled.ids, passLayer settled.overrides ++ passLayer launched.overrides, settled.asked⟩

/-- The diversion of a request that carries ids already. -/
def divert (snapshot : Snapshot) (host : Host) (draws : Draws) (context : Context)
    (carried : KeySet SegmentId) : Except DiversionError Diversion :=
  let scope := snapshot.scope host draws context carried
  if context.forced.isEmpty then snapshot.divertByBucket (scope topDomain)
  else snapshot.divertForced scope context.forced.keys

end Snapshot

end Rollout
