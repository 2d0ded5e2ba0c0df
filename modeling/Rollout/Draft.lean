import Rollout.Definition
/-!
# Layers in the making

A draft collects the segments of a layer and keeps a ledger of the buckets that they have: under
each criterion, the owner of each bucket.  A segment gets in only if its buckets exist and nobody
has them.
-/

namespace Rollout

/-- A layer that is still being filled. -/
structure LayerDraft where
  info : LayerInfo
  /-- The segments, in the order in which they were added. -/
  segments : List SegmentDefinition
  /-- Under each criterion, the segment that owns each allocated bucket. -/
  allocated : Table CriterionId (Table Bucket SegmentId)

namespace LayerDraft

/-- The layer with no segments. -/
def start (info : LayerInfo) : LayerDraft := ⟨info, [], .empty⟩

/-- The owners of the buckets of a criterion. -/
def owners (draft : LayerDraft) (criterion : CriterionId) : Table Bucket SegmentId :=
  (draft.allocated.get? criterion).getD .empty

/-- Refuses the first bucket that a criterion does not have. -/
def checkRange (segment : SegmentId) (count : Bucket) : List Bucket → Except ValidationError Unit
  | [] => .ok ()
  | bucket :: rest =>
    if bucket < 0 then .error (.negativeBucket segment bucket)
    else if count ≤ bucket then .error (.bucketOutOfRange segment bucket count)
    else checkRange segment count rest

/-- The buckets that others own already, by owner. -/
def conflicts (owners : Table Bucket SegmentId) (buckets : List Bucket) :
    Table SegmentId (KeySet Bucket) :=
  buckets.foldl (fun found bucket =>
    match owners.get? bucket with
    | none => found
    | some owner => found.update owner fun theirs => KeySet.add (theirs.getD .empty) bucket) .empty

/-- The owners after a segment got its buckets. -/
def allocate (owners : Table Bucket SegmentId) (segment : SegmentId) (buckets : List Bucket) :
    Table Bucket SegmentId :=
  buckets.foldr (fun bucket owners => owners.insert bucket segment) owners

/-- The draft with one more segment. -/
def add (draft : LayerDraft) (segment : SegmentDefinition) (criterion : Criterion) :
    Except ValidationError LayerDraft := do
  let info := segment.info
  let buckets := info.buckets.keys
  checkRange info.id criterion.buckets buckets
  let owners := draft.owners criterion.id
  let conflicts := conflicts owners buckets
  if !conflicts.isEmpty then
    throw (.overlappingBuckets info.id draft.info.id conflicts)
  return { draft with
    segments := draft.segments ++ [segment]
    allocated := draft.allocated.insert criterion.id (allocate owners info.id buckets) }

end LayerDraft

end Rollout
