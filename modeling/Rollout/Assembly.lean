import Rollout.Builder
import Rollout.Space
/-!
# Building a space: the whole

When all parts are there, what only shows across layers is checked, and the space is put together
from the inside out.

Two experiments in layers that a request can be in at once must not override the same flag, with one
exception: one of them may be in a launch layer.  Then the other one's override works on what the
launch experiment made of the flag, for requests that are in both.
-/

namespace Rollout

namespace Builder

/-! ## 1. Layers that enclose each other -/

/-- The layer of an id followed by every layer that encloses it, innermost first.  The layers are
listed the latest first, so that the enclosing one comes later in the list. -/
def lineageIn : List LayerDraft → LayerId → List LayerId
  | [], id => [id]
  | draft :: older, id =>
    if draft.info.id = id then
      if draft.info.isTop then [id]
      else
        match older.find? fun d => d.segments.any fun s => s.info.id == draft.info.domain with
        | some outer => id :: lineageIn older outer.info.id
        | none => [id]
    else lineageIn older id

/-- The layer of an id followed by every layer that encloses it, innermost first. -/
def lineage (b : Builder) (id : LayerId) : List LayerId := lineageIn b.drafts id

/-- Whether one of two layers is nested in the other, at any depth. -/
def overlapping (b : Builder) (first second : LayerId) : Bool :=
  (b.lineage first).contains second || (b.lineage second).contains first

/-! ## 2. Flags that are overridden in several layers -/

/-- Whether an experiment of the layer overrides a flag. -/
def overridesFlag (flag : String) (draft : LayerDraft) : Bool :=
  draft.segments.any fun segment => segment.overrides.contains flag

/-- The layers with an experiment that overrides a flag, in ascending order. -/
def overridingLayers (b : Builder) (flag : String) : List (LayerId × LayerDraft) :=
  (Table.ofList ((b.drafts.filter (overridesFlag flag)).map fun d => (d.info.id, d))).entries

/-- All flags that experiments override. -/
def overriddenFlags (b : Builder) : KeySet String :=
  KeySet.ofKeys (b.segments.flatMap fun segment => segment.overrides.keys)

/-- The first pair of a list, in the order of its first member and then of its second, that is
related. -/
def findPair? (related : α → α → Bool) : List α → Option (α × α)
  | [] => none
  | first :: rest =>
    match rest.find? (related first) with
    | some second => some (first, second)
    | none => findPair? related rest

/-- What is wrong with the layers that override a flag, if anything is. -/
def flagError? (b : Builder) (flag : String) : Option ValidationError :=
  let (launch, permanent) := (b.overridingLayers flag).partition fun layer => layer.2.info.launch
  if 1 < launch.length then some (.multipleLaunchLayers flag (launch.map (·.1)))
  else (findPair? b.overlapping (permanent.map (·.1))).map fun pair =>
    .overlappingLayers flag pair.1 pair.2

/-! ## 3. Effects -/

/-- The calculators that overrides make of those of a table; flags without one are left out. -/
def overridden (overrides : Table String FlagOverride) (calculators : Overrides) : Overrides :=
  overrides.entries.foldl (fun made entry =>
    match calculators.get? entry.1 with
    | none => made
    | some calculator => made.insert entry.1 (entry.2.apply calculator)) .empty

/-- What an experiment makes of the calculators of each launch experiment that overrides one of its
flags. -/
def launchEffects (b : Builder) (overrides : Table String FlagOverride) :
    Table SegmentId Overrides :=
  let launched := (b.drafts.filter (·.info.launch)).flatMap (·.segments)
  launched.foldl (fun effects segment =>
    let made := overridden overrides (overridden segment.overrides b.flags)
    if made.isEmpty then effects else effects.insert segment.info.id made) .empty

/-- What an experiment of a layer does to flags. -/
def effect (b : Builder) (layer : LayerInfo) (overrides : Table String FlagOverride) : Effect :=
  ⟨overridden overrides b.flags, if layer.launch then .empty else b.launchEffects overrides⟩

/-! ## 4. The space -/

/-- What is put together so far: the layers that wait for the domain they are nested in, the layers
of the space itself, and all segments. -/
structure Assembled where
  nested : Table SegmentId (Table LayerId Layer)
  top : Table LayerId Layer
  segments : Table SegmentId Segment

/-- A segment of a layer, with the layers nested in it. -/
def assembleSegment (b : Builder) (layer : LayerInfo)
    (nested : Table SegmentId (Table LayerId Layer)) : SegmentDefinition → Segment
  | .experiment info overrides => .experiment info (b.effect layer overrides)
  | .domain info => .domain info ((nested.get? info.id).map Table.values |>.getD [])

/-- What is put together after one more layer. -/
def assembleLayer (b : Builder) (done : Assembled) (draft : LayerDraft) : Assembled :=
  let segments := draft.segments.map (b.assembleSegment draft.info done.nested)
  let layer := Layer.ofSegments draft.info segments
  let known := segments.foldl (fun known segment => known.insert segment.info.id segment)
    done.segments
  if draft.info.isTop then
    { done with top := done.top.insert draft.info.id layer, segments := known }
  else
    { done with
      nested := done.nested.update draft.info.domain fun layers =>
        (layers.getD .empty).insert draft.info.id layer
      segments := known }

/-- All layers put together, the latest and so the innermost first. -/
def assemble (b : Builder) : Assembled :=
  b.drafts.foldl b.assembleLayer ⟨.empty, .empty, .empty⟩

/-- The space of the parts, unless layers that override a flag get in each other's way. -/
def build (b : Builder) (version : String) : Except ValidationError Space :=
  match b.overriddenFlags.keys.findSome? b.flagError? with
  | some e => .error e
  | none =>
    let done := b.assemble
    let (launch, permanent) := done.top.values.partition (·.info.launch)
    .ok (.make version b.flags done.segments b.criteria.values launch permanent)

end Builder

end Rollout
