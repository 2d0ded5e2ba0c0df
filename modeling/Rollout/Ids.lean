/-!
# Numbers that name things

Layers, segments and diversion criteria are named by 32-bit numbers, and so are the buckets that a
criterion divides requests into.
-/

namespace Rollout

/-- The number of a segment, or of the record that a layer makes of a request it has no segment
for. -/
abbrev SegmentId := Int32

/-- The number of a layer. -/
abbrev LayerId := Int32

/-- The number of a diversion criterion; criteria are tried in ascending order. -/
abbrev CriterionId := Int32

/-- The number of a bucket, or a count of buckets. -/
abbrev Bucket := Int32

/-- A layer nested in this domain is nested in none: it stands in the space itself. -/
def topDomain : SegmentId := 0

end Rollout
