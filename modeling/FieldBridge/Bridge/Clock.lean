/-
  The clock of a bridge.

  1. **Tasks** — `Bridge.settle` lets everything run that can run at the present time: the ticks that are
     due, the delayed readings that are due, the spawned tasks and the jobs of the outbox.

  2. **Time** — `Bridge.sleepUntil` lets time pass and stops wherever something falls due.

  3. **Waiting** — `Bridge.monitor` and `Bridge.read` are calls that may have to wait; time passes and the
     tasks run meanwhile.
-/

import FieldBridge.Bridge.Basic

namespace FieldBridge.Bridge

/-! ## Tasks -/

/-- A task has the outcome of its reading. -/
def finish (b : Bridge) (t : ReadTask) (outcome : Except ReadError AttributeSet) : Bridge :=
  let (notices, event) := t.event outcome
  let b := b.log notices
  match event with
  | some event => b.deliver event
  | none => b

/-- Take the answer to a reading. -/
def answer (b : Bridge) (f : ReadFaults) (r : Reading) : Except ReadError AttributeSet × Bridge :=
  let (answer, link) := b.client.link.endRead f r.request
  let (notices, outcome) := r.complete b.time answer
  (outcome, { b with client := { b.client with link } }.log notices)

/-- Ask for a reading; gives what the link does to it. -/
def ask (b : Bridge) (r : Reading) : ReadFaults × Bridge :=
  let (faults, link) := b.client.link.beginRead r.request
  (faults, { b with client := { b.client with link } })

/-- A delayed reading goes on. -/
def resume (b : Bridge) (d : Delayed) : Bridge :=
  let (outcome, b) := b.answer d.faults d.reading
  b.finish d.task outcome

/-- Run a task up to where it waits. -/
def run (b : Bridge) (t : ReadTask) : Bridge :=
  match Reading.plan b.client.manager.isConnected t.node t.attributes with
  | .error e => b.finish t (.error e)
  | .ok r =>
    let (faults, b) := b.ask r
    let d : Delayed := ⟨b.now + faults.delay, t, r, faults⟩
    if faults.delay = 0 then b.resume d else { b with delayed := b.delayed ++ [d] }

/-- Spawn a task for each node of the ticks that are due. -/
def tick (b : Bridge) : Bridge :=
  match b.timer with
  | none => b
  | some timer =>
    let (nodes, timer) := timer.fire b.now
    { b with timer, spawned := b.spawned ++ nodes.map (⟨·, .poll⟩) }

/-- Let the delayed readings go on that are due, the earliest first. -/
def wake (b : Bridge) : Bridge :=
  let (due, later) := b.delayed.partition fun d => d.due ≤ b.now
  (due.mergeSort fun d e => d.due ≤ e.due).foldl resume { b with delayed := later }

/-- Run the spawned tasks. -/
def runSpawned (b : Bridge) : Bridge := b.spawned.foldl run { b with spawned := [] }

/-- Run the jobs of the outbox, and log what they say. -/
def runJobs (b : Bridge) : Bridge :=
  let outbox := b.outbox.settle
  { b with outbox := { outbox with notices := [] }, notices := outbox.notices ++ b.notices }

/-- Let everything run that can run now. -/
def settle (b : Bridge) : Bridge := b.tick.wake.runSpawned.runJobs

/-! ## Time -/

/-- When something falls due next. -/
def nextStop (b : Bridge) : Option Nat :=
  ((b.timer.toList.map (·.next)) ++ b.delayed.map (·.due)).min?

/-- Set the clock forward at once.  Nothing runs before: a timer that has just been started is then
behind its first ticks (see `PollTimer.start`). -/
def jump (b : Bridge) (ms : Nat) : Bridge := { b with now := b.now + ms }

/-- Let time pass until `t`, stopping wherever something falls due before. -/
def sleepUntil (b : Bridge) (t : Nat) : Bridge :=
  let next := b.settle
  match next.nextStop with
  | none => { next with now := max b.now t }
  | some stop =>
    if b.now < stop ∧ stop < t then sleepUntil { next with now := stop } t
    else { next with now := max b.now t }
termination_by t - b.now

/-- Let some time pass. -/
def sleep (b : Bridge) (ms : Nat) : Bridge := b.sleepUntil (b.now + ms)

/-! ## Waiting -/

/-- Take monitor calls as far as they get. -/
def advance (b : Bridge) (calls : List MonitorCall) : List MonitorCall × Bridge :=
  let (notices, calls, client) := b.client.advanceAll b.now calls
  (calls, b.withClient (notices, client))

/-- Bring monitor calls to their end, in at most `rounds` rounds. -/
def await : Nat → Bridge → List MonitorCall → Bridge
  | 0, b, _ => b
  | rounds + 1, b, calls =>
    let (calls, b) := b.advance calls
    if calls.isEmpty then b
    else match (calls.filterMap MonitorCall.due?).min? with
      | some due => await rounds (b.sleepUntil due) calls
      | none => await rounds b calls

/-- Monitor the nodes that texts name, in several calls at once.  Each round ends a call that was creating
a subscription or one that waited for it. -/
def monitorAll (b : Bridge) (calls : List (List String)) : Bridge :=
  b.await (2 * calls.length + 1) (calls.map .asking)

/-- Monitor the nodes that texts name. -/
def monitor (b : Bridge) (texts : List String) : Bridge := b.monitorAll [texts]

/-- The session of the connection: time passes while a delayed reading is under way. -/
def session : Session Bridge where
  read request b :=
    let (faults, link) := b.client.link.beginRead request
    let b := { b with client := { b.client with link } }
    let b := if faults.delay = 0 then b else b.sleep faults.delay
    let (answer, link) := b.client.link.endRead faults request
    (answer, { b with client := { b.client with link } })
  time b := b.time

/-- Read attributes of a node. -/
def read (b : Bridge) (text : String) (attributes : List Attribute) :
    Except ReadError AttributeSet × Bridge :=
  let (notices, outcome, b) :=
    Reading.attempt session b.client.manager.isConnected text attributes b
  (outcome, b.log notices)

/-- Read attributes of a node; a failure is only reported. -/
def readQuietly (b : Bridge) (text : String) (attributes : List Attribute) :
    AttributeSet × Bridge :=
  let (notices, event, b) :=
    Reading.quietly session b.client.manager.isConnected text attributes b
  (event, b.log notices)

end FieldBridge.Bridge
