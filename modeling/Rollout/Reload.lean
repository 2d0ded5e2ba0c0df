import Rollout.Payload
import Rollout.Serving
/-!
# Reloading

A reload asks for the payload on offer and publishes the space that it describes.  It publishes all
or nothing: whatever goes wrong, the space that is served stays as it is, with its kill switches.

A reload takes time, and only one can be under way.  `Reloader.start` begins one and is refused
while another runs; `Reloader.finish` ends it.
-/

namespace Rollout

/-- Why no payload can be had. -/
inductive LoadError where
  | unreadable
deriving Repr, DecidableEq

/-- What is on offer when a payload is asked for: one, none, or an error. -/
abbrev Offer := Except LoadError (Option Payload)

/-- What a reload came to. -/
inductive ReloadOutcome where
  /-- A space was published. -/
  | updated
  /-- The version on offer is served already. -/
  | unchanged
  /-- Nothing is on offer. -/
  | absent
deriving Repr, DecidableEq

namespace ReloadOutcome

/-- The name of an outcome. -/
def name : ReloadOutcome → String
  | .updated => "updated"
  | .unchanged => "unchanged"
  | .absent => "absent"

end ReloadOutcome

/-- Why a reload failed. -/
inductive ReloadError where
  /-- Another one is under way. -/
  | busy
  | load (cause : LoadError)
  | rejected (version : String) (cause : DocumentError)

/-- What is said of the error; what is wrong with a source is not for this library to say. -/
def ReloadError.message? : ReloadError → Option String
  | .busy => some "another reload is in progress"
  | .load _ => none
  | .rejected version cause => some ("version " ++ version ++ " was rejected: " ++ cause.message)

/-- What is served, and whether a reload is under way. -/
structure Reloader where
  snapshot : Snapshot
  running : Bool

/-- What a reload came to, and what is served after it. -/
structure Reloaded where
  result : Except ReloadError ReloadOutcome
  reloader : Reloader
  emissions : List Emission

namespace Reloader

/-- The reloader before its first reload: the empty space is served, under no version. -/
def initial : Reloader := ⟨.of (.empty ""), false⟩

/-- The version that is served. -/
def version (r : Reloader) : String := r.snapshot.space.version

/-- What is served after an offer is taken up.  Only a forced reload publishes a version that is
served already. -/
def take (schema : Schema) (served : Snapshot) (force : Bool) :
    Offer → Except ReloadError (ReloadOutcome × Snapshot × List Emission)
  | .error e => .error (.load e)
  | .ok none => .ok (.absent, served, [])
  | .ok (some payload) =>
    if !force && payload.version == served.space.version then .ok (.unchanged, served, [])
    else
      match payload.space schema with
      | .error e => .error (.rejected payload.version e)
      | .ok space => let (snapshot, emissions) := Snapshot.publish space
        .ok (.updated, snapshot, emissions)

/-- What is counted for a reload. -/
def counted : Except ReloadError ReloadOutcome → Metric
  | .ok .updated => .reloadUpdated
  | .ok .unchanged => .reloadUnchanged
  | .ok .absent => .reloadAbsent
  | .error _ => .reloadFailed

/-- Begins a reload. -/
def start (r : Reloader) : Except ReloadError Reloader :=
  if r.running then .error .busy else .ok { r with running := true }

/-- Ends a reload. -/
def finish (schema : Schema) (offer : Offer) (force : Bool) (r : Reloader) : Reloaded :=
  let done (result : Except ReloadError ReloadOutcome) (snapshot : Snapshot)
      (emissions : List Emission) : Reloaded :=
    ⟨result, ⟨snapshot, false⟩, emissions ++ [.of .reloadDuration, .of (counted result)]⟩
  match take schema r.snapshot force offer with
  | .error e => done (.error e) r.snapshot []
  | .ok (outcome, snapshot, emissions) => done (.ok outcome) snapshot emissions

/-- A reload from beginning to end.  One that is refused counts as no attempt. -/
def reload (schema : Schema) (offer : Offer) (force : Bool) (r : Reloader) : Reloaded :=
  match r.start with
  | .error e => ⟨.error e, r, []⟩
  | .ok r => r.finish schema offer force

/-- Two reloads of which the second is asked for while the first is under way. -/
def reloadDuring (schema : Schema) (offer : Offer) (force second : Bool) (r : Reloader) :
    Reloaded × Except ReloadError ReloadOutcome :=
  match r.start with
  | .error e => (⟨.error e, r, []⟩, .error e)
  | .ok r =>
    let refused := r.reload schema offer second
    (refused.reloader.finish schema offer force, refused.result)

end Reloader

end Rollout
