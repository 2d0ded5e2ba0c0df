import Rollout.Ids
import Rollout.Table
/-!
# Metrics

What the library counts and measures about itself.  Each metric is described once, here; what
happened is a list of emissions, and `tally` adds them up by key.  A duration is told apart from
other measurements by its metric alone, so that a histogram adds up to the number of its records.
-/

namespace Rollout

/-- How the values of a metric add up. -/
inductive MetricKind where
  | counter
  | gauge
  | histogram
deriving Repr, DecidableEq

namespace MetricKind

/-- The name of a kind. -/
def name : MetricKind → String
  | .counter => "counter"
  | .gauge => "gauge"
  | .histogram => "histogram"

/-- The name of a kind at the start of a line. -/
def title : MetricKind → String
  | .counter => "Counter"
  | .gauge => "Gauge"
  | .histogram => "Histogram"

end MetricKind

/-- Something that is counted or measured. -/
structure Metric where
  kind : MetricKind
  name : String
  description : String
deriving Repr, DecidableEq

namespace Metric

/-! ## 1. Diversion -/

/-- Counts the requests that were diverted. -/
def requests : Metric := ⟨.counter, "diversion.requests", "Number of requests diverted"⟩

/-- Counts the diversions in which the request gained nothing. -/
def unassigned : Metric :=
  ⟨.counter, "diversion.none", "Number of diversions that added no segment id to the request"⟩

/-- Counts the ids that requests gained, apart for each id. -/
def assignments : Metric :=
  ⟨.counter, "diversion.assignments",
    "Number of requests diverted into a segment, labelled by segment id"⟩

/-- Counts the diversions that found a layer in contradiction with itself. -/
def errors : Metric :=
  ⟨.counter, "diversion.errors",
    "Number of diversions aborted because a layer had several valid segments"⟩

/-- Counts the spaces that were published. -/
def updates : Metric := ⟨.counter, "space.updates", "Number of experiment spaces published"⟩

/-- Counts the segments that were turned off. -/
def disabled : Metric :=
  ⟨.counter, "space.segments.disabled", "Number of segments turned off through the kill switch"⟩

/-- What the diversion of requests emits. -/
def ofDiversion : List Metric := [requests, unassigned, assignments, errors, updates, disabled]

/-! ## 2. Reloading -/

/-- Counts the reloads that published a space. -/
def reloadUpdated : Metric :=
  ⟨.counter, "reload.updated", "Number of reloads that published a new experiment space"⟩

/-- Counts the reloads that found the version that is served already. -/
def reloadUnchanged : Metric :=
  ⟨.counter, "reload.unchanged",
    "Number of reloads skipped because the payload version was already active"⟩

/-- Counts the reloads that found no payload. -/
def reloadAbsent : Metric :=
  ⟨.counter, "reload.absent", "Number of reloads skipped because the loader had no payload"⟩

/-- Counts the reloads that failed. -/
def reloadFailed : Metric :=
  ⟨.counter, "reload.failed", "Number of reloads that failed to load or deserialize a payload"⟩

/-- Records how long each reload took. -/
def reloadDuration : Metric :=
  ⟨.histogram, "reload.duration", "Time to complete a reload attempt in seconds"⟩

/-- What reloading emits. -/
def ofReload : List Metric :=
  [reloadUpdated, reloadUnchanged, reloadAbsent, reloadFailed, reloadDuration]

end Metric

/-! ## 3. Emissions -/

/-- One count or one record of a metric. -/
structure Emission where
  metric : Metric
  /-- The label of the segment that it is about, if it is about one. -/
  segment : Option String
deriving Repr, DecidableEq

namespace Emission

/-- An emission that is about no segment. -/
def of (metric : Metric) : Emission := ⟨metric, none⟩

/-- What the emission is added up under. -/
def key (e : Emission) : String :=
  match e.segment with
  | none => e.metric.name
  | some label => e.metric.name ++ "\x7bsegment_id=" ++ label ++ "\x7d"

/-- How many emissions there are of each key. -/
def tally (emissions : List Emission) : Table String Nat :=
  emissions.foldl (fun counts e => counts.update e.key fun n => n.getD 0 + 1) .empty

end Emission

end Rollout
