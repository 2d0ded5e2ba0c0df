import Rollout.Worker
/-!
# Commanding a worker

A commander performs commands one after the other while a worker runs, on a clock that only moves
while both of them wait.  What the commander asks for waits in a queue until the worker gets to it:
when the commander sleeps, awaits an answer, or has nothing left to do.  Commands in between change
what is on offer, but the worker has not seen any of it yet.

The commander starts one millisecond after the worker; when it is done, so is the worker.
-/

namespace Rollout

/-- What a commander does. -/
inductive Command where
  | offer (offer : Offer)
  | sleep (milliseconds : Nat)
  /-- Asks for a refresh and awaits the answer. -/
  | refresh
  /-- Asks for a refresh and does not care for the answer. -/
  | abandon
  | shutdown
  /-- Asks what is served. -/
  | version

/-- What a command comes to. -/
inductive CommandAnswer where
  | done
  | sent (delivered : Bool)
  | version (version : String)
  | reloaded (result : Except ReloadError ReloadOutcome)
  /-- The worker ended without an answer. -/
  | closed

/-- A worker with its clock and with what it was told but has not seen yet. -/
structure Shift where
  worker : Worker
  queue : List WorkerEvent
  /-- The time in milliseconds since the worker started. -/
  clock : Nat
  /-- How many refreshes were asked for. -/
  tickets : Nat

namespace Shift

/-- The worker gets to see all that it was told. -/
def settle (schema : Schema) (s : Shift) : Shift :=
  { s with worker := s.worker.run schema s.queue, queue := [] }

/-- How many ticks there are after one time and up to another. -/
def ticksBetween (interval start stop : Nat) : Nat := stop / interval - start / interval

/-- The clock moves on. -/
def pass (schema : Schema) (interval milliseconds : Nat) (s : Shift) : Shift :=
  let s := s.settle schema
  let later := s.clock + milliseconds
  let ticks := List.replicate (ticksBetween interval s.clock later) WorkerEvent.tick
  { s with worker := s.worker.run schema ticks, clock := later }

/-- The worker is told something, unless it has ended. -/
def send (event : WorkerEvent) (s : Shift) : Shift :=
  if s.worker.ended then s else { s with queue := s.queue ++ [event] }

/-- One command. -/
def perform (schema : Schema) (interval : Nat) (s : Shift) : Command → CommandAnswer × Shift
  | .offer offer => (.done, { s with worker := s.worker.step schema (.offer offer) })
  | .sleep 0 => (.done, s)
  | .sleep milliseconds => (.done, s.pass schema interval milliseconds)
  | .refresh =>
    let ticket := s.tickets
    let asked := ({ s with tickets := ticket + 1 }.send (.refresh ticket)).settle schema
    (match asked.worker.reply? ticket with
      | some result => .reloaded result
      | none => .closed, asked)
  | .abandon =>
    (.sent !s.worker.ended, { s with tickets := s.tickets + 1 }.send (.refresh s.tickets))
  | .shutdown => (.sent !s.worker.ended, s.send .shutdown)
  | .version => (.version s.worker.reloader.version, s)

/-- Commands, one after the other. -/
def performAll (schema : Schema) (interval : Nat) : Shift → List Command →
    List CommandAnswer × Shift
  | s, [] => ([], s.send .shutdown |>.settle schema)
  | s, c :: cs =>
    let (answer, s) := s.perform schema interval c
    let (answers, s) := performAll schema interval s cs
    (answer :: answers, s)

end Shift

/-- The answers to commands, and the worker in the end. -/
def Worker.command (schema : Schema) (interval : Nat) (reloader : Reloader) (offered : Offer)
    (commands : List Command) : List CommandAnswer × Worker :=
  let begun : Shift := ⟨.start schema reloader offered, [], 0, 0⟩
  let (answers, s) := (begun.pass schema interval 1).performAll schema interval commands
  (answers, s.worker)

end Rollout
