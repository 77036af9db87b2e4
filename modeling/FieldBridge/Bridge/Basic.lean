/-
  The bridge.

  A `Bridge` is everything that runs: the client of the server, the poll timer, the readings under way,
  the listeners, the pipeline and the outbox, under one clock that counts milliseconds.  Nothing runs by
  itself; what is spawned waits in a list until the clock module lets it run.

  Events go to the listeners in order of registration (`Bridge.deliver`): a recorder keeps them, the
  logger logs them, and the pipeline makes them into messages for the outbox.
-/

import FieldBridge.Config
import FieldBridge.Listener.Registry
import FieldBridge.Pipeline
import FieldBridge.Sink.Outbox
import FieldBridge.Source.Client
import FieldBridge.Source.Poller
import FieldBridge.Source.Task

namespace FieldBridge

/-- Who listens to events. -/
inductive Listener where
  | recorder
  | pipeline
  | logger
  deriving DecidableEq, Repr, Inhabited

/-- A reading that the server's link holds back. -/
structure Delayed where
  due : Nat
  task : ReadTask
  reading : Reading
  faults : ReadFaults
  deriving Inhabited

/-- A bridge and all that it has under way. -/
structure Bridge where
  config : Config
  now : Nat := 0
  client : Client := {}
  registry : Registry Listener := {}
  /-- The listeners that starting has registered. -/
  registered : List ListenerId := []
  timer : Option PollTimer := none
  /-- Tasks that have not run yet, in the order in which they were spawned. -/
  spawned : List ReadTask := []
  /-- In the order in which they were begun. -/
  delayed : List Delayed := []
  outbox : Outbox
  pipeline : Pipeline
  /-- What the recorder got, newest first. -/
  events : List AttributeSet := []
  /-- What was logged, newest first. -/
  notices : List Notice := []

namespace Bridge

/-- A bridge that has not been started. -/
def create (config : Config) (gate : GatedBroker) : Bridge where
  config
  outbox := {
    sink := {
      topic := Topic.create config.topic config.partitions config.replication
      format := config.format }
    gate }
  pipeline := { aggregateId := config.aggregateId }

/-- The time of day. -/
def time (b : Bridge) : Instant :=
  (Instant.ofUnix? (b.now / 1000 : Nat) (b.now % 1000 * 1000000)).getD default

/-- Log notices, the oldest first. -/
def log (b : Bridge) (notices : List Notice) : Bridge :=
  { b with notices := notices.reverse ++ b.notices }

/-- Put what a step of the client gives in place. -/
def withClient (b : Bridge) (step : List Notice × Client) : Bridge :=
  { b with client := step.2 }.log step.1

/-- The number of listeners. -/
def listeners (b : Bridge) : Nat := b.registry.size

/-! ## Events -/

/-- Register a listener. -/
def listen (b : Bridge) (l : Listener) : ListenerId × Bridge :=
  let (id, registry) := b.registry.add l
  (id, { b with registry })

/-- Call a listener. -/
def call (event : AttributeSet) (b : Bridge) : Listener → Bridge
  | .recorder => { b with events := event :: b.events }
  | .logger => b.log [.received (event.getOrEmpty .nodeId)]
  | .pipeline =>
    let (message, pipeline) := b.pipeline.pipe b.time (.delivered event)
    let b := { b with pipeline }
    match message with
    | some m => { b with outbox := b.outbox.send m }
    | none => b

/-- Deliver an event to the listeners. -/
def deliver (b : Bridge) (event : AttributeSet) : Bridge :=
  b.registry.reached.foldl (call event) b

/-- Spawn a task for each change. -/
def spawn (b : Bridge) (changes : List Change) : Bridge :=
  { b with spawned := b.spawned ++ changes.map .ofChange }

/-! ## Connections -/

/-- Connect to the server at a URL; says whether that succeeded. -/
def connect (b : Bridge) (url : String) : Bool × Bridge :=
  let (done, step) := b.client.connect url
  (done, b.withClient step)

/-- Disconnect. -/
def disconnect (b : Bridge) : Bridge := b.withClient b.client.disconnect

/-- Stop monitoring the nodes that texts name. -/
def unmonitor (b : Bridge) (texts : List String) : Bridge :=
  b.withClient (b.client.unmonitor texts)

/-! ## Polling -/

/-- Poll nodes from now on, in place of what is being polled.  The first tick is due at the time of the
call, not where the task of the timer first runs: `PollTimer.start` says where the two differ. -/
def startPolling (b : Bridge) (nodes : List String) (period : Nat) : Bridge :=
  { b with timer := PollTimer.start nodes period b.now }.log
    (if period = 0 then [.zeroInterval] else [])

/-- Poll no longer; readings under way go on. -/
def stopPolling (b : Bridge) : Bridge := { b with timer := none }

/-- A poll timer is running. -/
def isPolling (b : Bridge) : Bool := b.timer.isSome

end Bridge

end FieldBridge
