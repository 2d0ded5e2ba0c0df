import Rollout.Bucket
import Rollout.Override
import Rollout.Window
/-!
# Layers and segments

A layer is a partition of the requests.  Its segments claim buckets under a criterion; a segment is
an experiment, which changes flags, or a domain, in which further layers are nested.  A layer keeps
an index of the buckets that its segments claim, and the set of all ids that it can record.

## What a request meets in a layer

`Layer.visits` is the account of a request in a layer and in what is nested there: one `Visit` for
each layer it comes to, in order, with the outcome there.  A layer of which the request already
carries an id is passed by.  Otherwise the first criterion under which the request has a claimed
bucket decides: the segment that claims it takes the request in, or refuses it, in which case the
layer records a fallback id.  Nothing later looks at the layers again: what a request gains is a
function of these visits.
-/

namespace Rollout

/-- What experiments and domains have in common. -/
structure SegmentInfo where
  id : SegmentId
  layer : LayerId
  criterion : CriterionId
  buckets : KeySet Bucket
  condition : Condition
  /-- The times at which requests are taken in. -/
  active : Window
  /-- The times at which the overrides count. -/
  overridesWindow : Window

/-- What an experiment does to flags. -/
structure Effect where
  /-- The overridden calculators. -/
  base : Overrides
  /-- The calculators for requests that are also in a launch experiment, by its id. -/
  launch : Table SegmentId Overrides

/-- What a layer is, its segments apart. -/
structure LayerInfo where
  id : LayerId
  /-- The domain that the layer is nested in, or `topDomain`. -/
  domain : SegmentId
  launch : Bool
  /-- Recorded when no segment claims a bucket of the request. -/
  unbiased : SegmentId
  /-- Recorded when the segment that claims a hashed bucket refuses the request. -/
  fixedBiased : SegmentId
  /-- Recorded when the segment that claims a drawn bucket refuses the request. -/
  randomBiased : SegmentId
deriving Repr, DecidableEq

/-- Whether the layer stands in the space itself. -/
def LayerInfo.isTop (info : LayerInfo) : Bool := info.domain == topDomain

/-- Under each criterion, the positions of the segments that claim each bucket. -/
abbrev BucketIndex := Table CriterionId (Table Bucket (List Nat))

mutual

/-- A slice of a layer. -/
inductive Segment where
  | experiment (info : SegmentInfo) (effect : Effect)
  | domain (info : SegmentInfo) (layers : List Layer)

/-- A partition of the requests: its segments, the index of their buckets, and the ids that it can
record. -/
inductive Layer where
  | mk (info : LayerInfo) (segments : List Segment) (index : BucketIndex)
      (owned : KeySet SegmentId)

end

namespace Segment

/-- What the segment has in common with any other. -/
def info : Segment → SegmentInfo
  | .experiment info _ => info
  | .domain info _ => info

end Segment

namespace Layer

/-- What the layer is, its segments apart. -/
def info : Layer → LayerInfo
  | .mk info _ _ _ => info

/-- The segments of the layer, in the order in which they were added. -/
def segments : Layer → List Segment
  | .mk _ segments _ _ => segments

/-- The index of the claimed buckets. -/
def index : Layer → BucketIndex
  | .mk _ _ index _ => index

/-- Every id that a request can gain from the layer: its fallback ids, its experiments, and what the
layers in its domains own. -/
def owned : Layer → KeySet SegmentId
  | .mk _ _ _ owned => owned

end Layer

/-- The ids that a request can gain from a segment. -/
def Segment.owned : Segment → KeySet SegmentId
  | .experiment info _ => KeySet.ofKeys [info.id]
  | .domain _ layers => layers.foldl (fun ids layer => KeySet.union ids layer.owned) .empty

/-! ## 1. Building a layer -/

namespace Layer

/-- The index with the buckets of the segment at a position. -/
def indexSegment (index : BucketIndex) (position : Nat) (info : SegmentInfo) : BucketIndex :=
  index.update info.criterion fun claims =>
    info.buckets.keys.foldr
      (fun bucket claims => claims.update bucket fun positions => positions.getD [] ++ [position])
      (claims.getD .empty)

/-- The index of segments, the first of which stands at a given position. -/
def indexFrom (index : BucketIndex) : Nat → List SegmentInfo → BucketIndex
  | _, [] => index
  | position, info :: rest =>
    indexFrom (indexSegment index position info) (position + 1) rest

/-- The layer of these segments. -/
def ofSegments (info : LayerInfo) (segments : List Segment) : Layer :=
  .mk info segments (indexFrom .empty 0 (segments.map Segment.info))
    (segments.foldl (fun ids segment => KeySet.union ids segment.owned)
      (KeySet.ofKeys [info.unbiased, info.fixedBiased, info.randomBiased]))

/-- The positions of the segments that claim a bucket under a criterion.  The index is asked for
the greatest claimed bucket that is not above it, which is the bucket itself if it is claimed at
all. -/
def claimed (index : BucketIndex) (infos : List SegmentInfo) (criterion : CriterionId)
    (bucket : Bucket) : List Nat :=
  match (index.get? criterion).bind (·.floor? bucket) with
  | none => []
  | some (_, positions) => positions.filter fun position =>
    (infos[position]?.map (·.buckets.contains bucket)).getD false

end Layer

/-! ## 2. What a request meets -/

/-- What decides on the way of a request through layers. -/
structure Scope where
  context : Context
  /-- The answers of the conditions that the host supplies. -/
  host : Host
  /-- The ids that the request carries already. -/
  carried : KeySet SegmentId
  /-- The criteria, in ascending order. -/
  criteria : List Criterion
  /-- The segments that are turned off. -/
  disabled : KeySet SegmentId
  /-- The number drawn in a layer for a random criterion. -/
  draw : LayerId → CriterionId → Nat

namespace Scope

/-- The answer of each leaf for the request. -/
def answers (scope : Scope) : Answers := Leaf.answer scope.context scope.host

/-- The bucket of the request in a layer under a criterion, if it has one. -/
def bucket? (scope : Scope) (layer : LayerId) (criterion : Criterion) : Option Bucket :=
  if criterion.random then Bucket.drawn? (scope.draw layer criterion.id) criterion.buckets
  else (scope.context.identifiers.get? criterion.id).bind fun identifier =>
    Bucket.stable? layer identifier criterion.buckets

end Scope

namespace SegmentInfo

/-- Whether the segment is open for requests at this time, its condition apart. -/
def isOpen (scope : Scope) (info : SegmentInfo) : Bool :=
  !scope.disabled.contains info.id && info.active.contains scope.context.time

/-- Whether the segment takes the request in. -/
def accepts (scope : Scope) (info : SegmentInfo) : Bool :=
  info.isOpen scope && info.condition.holds scope.answers

/-- The leaves looked at to learn whether the segment takes the request in. -/
def asked (scope : Scope) (info : SegmentInfo) : List Leaf :=
  if info.isOpen scope then info.condition.asked scope.answers else []

end SegmentInfo

/-- What becomes of a request in one layer. -/
inductive Outcome where
  /-- The request carries an id of the layer already. -/
  | carried
  /-- No segment takes the request in, and the layer records this id instead. -/
  | fallback (id : SegmentId)
  /-- The request enters an experiment. -/
  | experiment (info : SegmentInfo) (effect : Effect)
  /-- The request enters a domain, and then the layers in it. -/
  | domain (info : SegmentInfo)
  /-- Several segments would take the request in. -/
  | contested (bucket : Bucket) (segments : List SegmentId)

/-- A request in one layer. -/
structure Visit where
  layer : LayerId
  outcome : Outcome
  /-- The leaves that were looked at, in order. -/
  asked : List Leaf

namespace Layer

/-- The first criterion under which the request has a bucket that segments claim, with the bucket
and the positions of these segments. -/
def deciding? (scope : Scope) (layer : LayerId) (index : BucketIndex) (infos : List SegmentInfo) :
    Option (Criterion × Bucket × List Nat) :=
  scope.criteria.findSome? fun criterion =>
    (scope.bucket? layer criterion).bind fun bucket =>
      match claimed index infos criterion.id bucket with
      | [] => none
      | positions => some (criterion, bucket, positions)

/-- The verdict of a layer on a request: the position of the segment that it enters, or the outcome
where it enters none; and the leaves looked at. -/
def verdict (scope : Scope) (info : LayerInfo) (infos : List SegmentInfo) (index : BucketIndex)
    (owned : KeySet SegmentId) : (Nat ⊕ Outcome) × List Leaf :=
  if !KeySet.disjoint scope.carried owned then (.inr .carried, [])
  else
    match deciding? scope info.id index infos with
    | none => (.inr (.fallback info.unbiased), [])
    | some (criterion, bucket, positions) =>
      let candidates := positions.filterMap fun position =>
        infos[position]?.map fun candidate => (position, candidate)
      let asked := candidates.flatMap fun c => c.2.asked scope
      match candidates.filter fun c => c.2.accepts scope with
      | [] =>
        (.inr (.fallback (if criterion.random then info.randomBiased else info.fixedBiased)), asked)
      | [c] => (.inl c.1, asked)
      | several => (.inr (.contested bucket (several.map (·.2.id))), asked)

end Layer

mutual

/-- What a request meets that enters a segment, after these leaves were looked at. -/
def Segment.visits (scope : Scope) (asked : List Leaf) : Segment → List Visit
  | .experiment info effect => [⟨info.layer, .experiment info effect, asked⟩]
  | .domain info layers => ⟨info.layer, .domain info, asked⟩ :: visitsOfLayers scope layers

/-- What a request meets in a layer and in what is nested there. -/
def Layer.visits (scope : Scope) : Layer → List Visit
  | .mk info segments index owned =>
    match Layer.verdict scope info (segments.map Segment.info) index owned with
    | (.inl position, asked) => visitsOfPosition scope asked segments position
    | (.inr outcome, asked) => [⟨info.id, outcome, asked⟩]

/-- What a request meets that enters the segment at a position. -/
def visitsOfPosition (scope : Scope) (asked : List Leaf) : List Segment → Nat → List Visit
  | [], _ => []
  | segment :: _, 0 => segment.visits scope asked
  | _ :: rest, position + 1 => visitsOfPosition scope asked rest position

/-- What a request meets in layers, one after the other. -/
def visitsOfLayers (scope : Scope) : List Layer → List Visit
  | [] => []
  | layer :: rest => layer.visits scope ++ visitsOfLayers scope rest

end

end Rollout
