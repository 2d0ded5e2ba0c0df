import Rollout.Ids
import Rollout.Table
/-!
# Contexts

What a request brings along: identifiers to bucket it by, attributes for conditions to look at, the
segments it is forced into, and its time.  None of it changes while the request lives.
-/

namespace Rollout

/-- The inputs of one request. -/
structure Context where
  /-- The stable identifiers (a cookie, an account), by the criterion that buckets them. -/
  identifiers : Table CriterionId String
  /-- The named properties. -/
  attributes : Table String String
  /-- The segments that the request enters whatever its bucket. -/
  forced : KeySet SegmentId
  /-- The time of the request, in milliseconds since the epoch. -/
  time : Int64

/-- The context that brings nothing, at a given time. -/
def Context.at (time : Int64) : Context := ⟨.empty, .empty, .empty, time⟩

end Rollout
