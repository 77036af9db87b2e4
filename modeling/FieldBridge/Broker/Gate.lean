/-
  A broker behind a gate.

  A gate holds jobs back: where it is closed, each needs a permit and uses it up, in order of arrival.
  Creating the topic and flushing can be made to fail, and flushing to stall.  Behind the gate is the
  in-process broker.
-/

import FieldBridge.Broker.Memory
import FieldBridge.Sink.Publish

namespace FieldBridge

/-- An in-process broker and the gate in front of it. -/
structure GatedBroker where
  broker : MemoryBroker := {}
  /-- Jobs need a permit. -/
  closed : Bool := false
  permits : Nat := 0
  /-- Jobs waiting for a permit, in order of arrival. -/
  waiting : List Job := []
  failEnsure : Bool := false
  failFlush : Bool := false
  /-- A flush does not return. -/
  stallFlush : Bool := false
  deriving Repr

namespace GatedBroker

/-- Create the topic. -/
def ensure (g : GatedBroker) (t : Topic) : Except BrokerError Unit × GatedBroker :=
  if g.failEnsure then (.error (.send "ensure fault"), g)
  else (.ok (), { g with broker := g.broker.ensure t })

/-- Confirm what was accepted; `none` if that does not return in time. -/
def flush (g : GatedBroker) : Option (Except BrokerError Unit) :=
  if g.stallFlush then none
  else if g.failFlush then some (.error (.flush "flush fault"))
  else some (.ok ())

/-- A job arrives at the gate: it passes, or it joins the waiting ones. -/
def arrive (g : GatedBroker) (j : Job) : Bool × GatedBroker :=
  if !g.closed then (true, g)
  else if g.permits = 0 then (false, { g with waiting := g.waiting ++ [j] })
  else (true, { g with permits := g.permits - 1 })

/-- Hand out permits: the jobs that may pass now, and the gate behind them. -/
def release (g : GatedBroker) (n : Nat) : List Job × GatedBroker :=
  let k := min n g.waiting.length
  (g.waiting.take k, { g with waiting := g.waiting.drop k, permits := g.permits + (n - k) })

/-- The broker's answer to a job that has passed. -/
def send (g : GatedBroker) (j : Job) : Except BrokerError Receipt × GatedBroker :=
  let (answer, broker) := g.broker.send j.record
  (answer, { g with broker })

end GatedBroker

end FieldBridge
