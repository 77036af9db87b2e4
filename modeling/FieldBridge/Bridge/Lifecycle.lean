/-
  Starting and shutting down.

  1. **Start** — topic, connection, listeners, monitored nodes, poll timer, in this order.  Only the topic
     can make it fail, before anything else has happened; without a connection the bridge runs on.

  2. **Shutdown** — poll timer, connection, flush, listeners.  A flush that fails or takes too long makes
     it fail, and then the listeners stay.  It takes too long where jobs stay in flight, and where the
     broker stalls.

  Each of the two is cut where it has to wait (`beginStart`, `finishStart`, `beginShutdown`, `tryFlush`,
  `finishShutdown`), so that calls of the two can overlap.
-/

import FieldBridge.Bridge.Clock

namespace FieldBridge.Bridge

/-- Why a lifecycle step failed. -/
inductive Error where
  | broker (cause : Address.ParseError)
  | topic (cause : SinkError)
  | flush (cause : SinkError)
  /-- The flush took longer than this many seconds. -/
  | flushTimeout (seconds : Nat)
  deriving DecidableEq, Repr

/-- The wording of the error. -/
def Error.message : Error → String
  | .broker cause => "Failed to create MQTT broker: " ++ cause.message
  | .topic cause => "Failed to ensure topic: " ++ cause.message
  | .flush cause => "Failed to flush publish sink: " ++ cause.message
  | .flushTimeout seconds =>
    "Flush did not complete within " ++ Decimal.text seconds ++ "s: deadline has elapsed"

/-- A bridge for a configuration, whose broker has to have a valid address. -/
def ofConfig (config : Config) : Except Error Bridge :=
  match config.brokerKind with
  | .memory => .ok (create config {})
  | .mqtt => match Address.parse config.bootstrapServers with
    | .ok _ => .ok (create config {})
    | .error e => .error (.broker e)

/-! ## Start -/

/-- Register the pipeline and the logger, unless they are registered. -/
def register (b : Bridge) : Bridge :=
  if b.registered.isEmpty then
    let (pipeline, b) := b.listen .pipeline
    let (logger, b) := b.listen .logger
    { b with registered := [pipeline, logger] }
  else b

/-- Start, up to the monitor call. -/
def beginStart (b : Bridge) : Except Error Unit × Bridge :=
  match b.outbox.ensure with
  | (.error e, outbox) => (.error (.topic e), { b with outbox })
  | (.ok (), outbox) =>
    let (done, b) := { b with outbox }.connect b.config.serverUrl
    (.ok (), (b.log (if done then [] else [.withoutConnection])).register)

/-- Start, from the end of the monitor call on. -/
def finishStart (b : Bridge) : Bridge :=
  if b.config.pollingEnabled then
    b.startPolling b.config.pollingNodes b.config.pollingInterval.toNat
  else b

/-- Start. -/
def start (b : Bridge) : Except Error Unit × Bridge :=
  match b.beginStart with
  | (.error e, b) => (.error e, b)
  | (.ok (), b) => (.ok (), (b.monitor b.config.nodes).finishStart)

/-! ## Shutdown -/

/-- Shut down, up to the flush. -/
def beginShutdown (b : Bridge) : Bridge := b.stopPolling.disconnect

/-- One look of a flush: `none` while it has to wait for jobs or for the broker. -/
def tryFlush (b : Bridge) : Option (Except Error Unit) :=
  b.outbox.tryFlush.map fun
    | .ok () => .ok ()
    | .error e => .error (.flush e)

/-- Flush, and give up at a deadline, be it that jobs are in flight or that the broker does not confirm.
Meanwhile time passes and nothing comes from outside: a shutdown during which permits are handed out or
calls are made is one that is cut at its flush. -/
def flushUntil (b : Bridge) (deadline : Nat) : Except Error Unit × Bridge :=
  match b.tryFlush with
  | some answer => (answer, b)
  | none =>
    if b.now < deadline then
      let next := b.settle
      match next.tryFlush with
      | some answer => (answer, next)
      | none =>
        match next.nextStop with
        | none => flushUntil { next with now := deadline } deadline
        | some stop =>
          if b.now < stop ∧ stop < deadline then flushUntil { next with now := stop } deadline
          else flushUntil { next with now := deadline } deadline
    else (.error (.flushTimeout b.config.flushTimeout.toNat), b)
termination_by deadline - b.now
decreasing_by
  · show deadline - deadline < deadline - b.now
    omega
  · show deadline - stop < deadline - b.now
    omega
  · show deadline - deadline < deadline - b.now
    omega

/-- Remove the registered listeners. -/
def deregister (b : Bridge) : Bridge :=
  { b with
    registry := b.registered.foldl (fun r id => (r.remove id).2) b.registry
    registered := [] }

/-- Shut down, from the end of the flush on. -/
def finishShutdown (b : Bridge) (answer : Except Error Unit) : Except Error Unit × Bridge :=
  match answer with
  | .ok () => (.ok (), b.deregister)
  | .error e => (.error e, b)

/-- Shut down. -/
def shutdown (b : Bridge) : Except Error Unit × Bridge :=
  let b := b.beginShutdown
  let (answer, b) := b.flushUntil (b.now + b.config.flushTimeout.toNat * 1000)
  b.finishShutdown answer

end FieldBridge.Bridge
