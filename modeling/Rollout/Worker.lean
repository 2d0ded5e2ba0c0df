import Rollout.Reload
/-!
# The reload worker

The worker reloads by itself at intervals, and on demand.  It takes one event after the other: a
tick reloads what has changed, a request for a refresh reloads whatever is on offer and is answered
with what came of it, and a shutdown ends the worker.  Before the first event it loads once.

A failed reload ends nothing, and no event overtakes another.
-/

namespace Rollout

/-- What a worker is told, or what changes around it. -/
inductive WorkerEvent where
  /-- The interval is over. -/
  | tick
  /-- A refresh is asked for; the ticket tells the answers apart. -/
  | refresh (ticket : Nat)
  /-- Something else is on offer. -/
  | offer (offer : Offer)
  /-- The worker is to end, or nobody is left to ask it for anything. -/
  | shutdown

/-- A worker and what came of what it was told. -/
structure Worker where
  reloader : Reloader
  /-- What is on offer. -/
  offered : Offer
  ended : Bool
  /-- The answers to the refreshes, in order. -/
  replies : List (Nat × Except ReloadError ReloadOutcome)
  emissions : List Emission

namespace Worker

/-- The worker after one reload, and what the reload came to. -/
def reload (schema : Schema) (force : Bool) (w : Worker) :
    Except ReloadError ReloadOutcome × Worker :=
  let done := w.reloader.reload schema w.offered force
  (done.result, { w with reloader := done.reloader, emissions := w.emissions ++ done.emissions })

/-- The worker after its first load. -/
def start (schema : Schema) (reloader : Reloader) (offered : Offer) : Worker :=
  (Worker.reload schema true ⟨reloader, offered, false, [], []⟩).2

/-- The worker after one event. -/
def step (schema : Schema) (w : Worker) : WorkerEvent → Worker
  | .offer offer => { w with offered := offer }
  | .tick => if w.ended then w else (w.reload schema false).2
  | .refresh ticket =>
    if w.ended then w
    else
      let (result, w) := w.reload schema true
      { w with replies := w.replies ++ [(ticket, result)] }
  | .shutdown => { w with ended := true }

/-- The worker after events. -/
def run (schema : Schema) (w : Worker) (events : List WorkerEvent) : Worker :=
  events.foldl (step schema) w

/-- The answer to a refresh, if it was taken. -/
def reply? (w : Worker) (ticket : Nat) : Option (Except ReloadError ReloadOutcome) :=
  w.replies.lookup ticket

end Worker

end Rollout
