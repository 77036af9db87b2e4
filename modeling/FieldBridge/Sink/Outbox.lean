/-
  The outbox: a sink, its spawned jobs and the broker they go to.

  A message sent becomes a job that is ready to run.  Running a job takes it through the gate and to the
  broker, and logs the answer; a job that the gate holds back runs again once it has a permit.

  Jobs run in the order in which they became ready (`Outbox.settle`).
-/

import FieldBridge.Broker.Gate

namespace FieldBridge

/-- A job that is ready to run. -/
structure ReadyJob where
  job : Job
  /-- It has a permit already. -/
  admitted : Bool
  deriving Repr

/-- A sink with its jobs and broker. -/
structure Outbox where
  sink : Sink
  gate : GatedBroker := {}
  ready : List ReadyJob := []
  /-- What was logged, newest first. -/
  notices : List Notice := []
  deriving Repr

namespace Outbox

/-- Publish a message. -/
def send (o : Outbox) (m : Message) : Outbox :=
  let (job, sink) := o.sink.send m
  { o with sink, ready := o.ready ++ [⟨job, false⟩] }

/-- Hand a job to the broker and take its answer. -/
def deliver (o : Outbox) (j : Job) : Outbox :=
  let (answer, gate) := o.gate.send j
  let (notice, sink) := o.sink.complete j answer
  { o with gate, sink, notices := notice :: o.notices }

/-- Run a job up to where it waits. -/
def run (o : Outbox) (r : ReadyJob) : Outbox :=
  if r.admitted then o.deliver r.job
  else
    let (passes, gate) := o.gate.arrive r.job
    let o := { o with gate }
    if passes then o.deliver r.job else o

/-- Run every ready job. -/
def settle (o : Outbox) : Outbox := o.ready.foldl run { o with ready := [] }

/-- Hand out permits; the jobs that get one are ready again. -/
def permit (o : Outbox) (n : Nat) : Outbox :=
  let (jobs, gate) := o.gate.release n
  { o with gate, ready := o.ready ++ jobs.map fun j => ⟨j, true⟩ }

/-- Ask the broker to create the sink's topic. -/
def ensure (o : Outbox) : Except SinkError Unit × Outbox :=
  match o.gate.ensure o.sink.topic with
  | (.ok (), gate) => (.ok (), { o with gate })
  | (.error e, gate) => (.error (.topic o.sink.topic.name e), { o with gate })

/-- One look of a waiting flush: `none` while a job is in flight, else the broker's answer, if there is
one. -/
def tryFlush (o : Outbox) : Option (Except SinkError Unit) :=
  if o.sink.mayFlush then o.gate.flush.map Sink.flushed else none

/-- A flush that lets the ready jobs run once and is given up if that does not leave it idle. -/
def flush (o : Outbox) : Option (Except SinkError Unit) × Outbox :=
  match o.tryFlush with
  | some answer => (some answer, o)
  | none =>
    let o := o.settle
    (o.tryFlush, o)

/-- The number of jobs in flight. -/
def inFlight (o : Outbox) : Nat := o.sink.inFlight.count

/-- The records of the sink's topic. -/
def records (o : Outbox) : List StoredRecord := o.gate.broker.records o.sink.topic.name

end Outbox

end FieldBridge
