import Rollout.Metric
import Rollout.Request
/-!
# Serving requests

One snapshot at a time is published, and requests are diverted through it.  Publishing a space turns
all of its segments on; a request that was diverted before keeps its settings and gets new layers of
overrides on top of them.

Each act comes with its emissions.
-/

namespace Rollout

/-- What became of a request that was handed to a snapshot. -/
structure Served where
  result : Except DiversionError Request
  emissions : List Emission
  /-- The leaves that were looked at, in order. -/
  asked : List Leaf

namespace Snapshot

/-- What is emitted for a request that gained ids. -/
def emissionsOf (snapshot : Snapshot) (gained : KeySet SegmentId) : List Emission :=
  .of .requests ::
    (if gained.isEmpty then [.of .unassigned] else []) ++
    gained.keys.map fun id => ⟨.assignments, some (snapshot.space.label id)⟩

/-- Diverts a request and records what comes of it. -/
def handle (snapshot : Snapshot) (host : Host) (draws : Draws) (r : Request) : Served :=
  match snapshot.divert host draws r.context r.ids with
  | .error e => ⟨.error e, [.of .errors], []⟩
  | .ok d => ⟨.ok (r.record snapshot.space.settings d), snapshot.emissionsOf d.ids, d.asked⟩

/-- Turns a segment off, and says whether the space has it. -/
def disable (snapshot : Snapshot) (id : SegmentId) : Bool × Snapshot × List Emission :=
  match snapshot.disable? id with
  | some turnedOff => (true, turnedOff, [.of .disabled])
  | none => (false, snapshot, [])

/-- Publishes a space in place of the one that is served. -/
def publish (space : Space) : Snapshot × List Emission := (.of space, [.of .updates])

end Snapshot

end Rollout
